import Hunter.Knowledge.Shown

/-!
A remediation that findings drive: the one pull request of an Issue that may be
remediated, the findings of it that are selected, the requests that are recorded and
the authorization that is minted for them. A finding has two attempts and a pull
request five.
-/

namespace Hunter.Knowledge

open IssueAgent

def maxRemediationFindings : Nat := 16

/-- `(pull.get("head") or {}).get(name)`. -/
def headMember (pull : Json) (name : String) : Py (Option Json) :=
  match Json.orElse (pull.get? "head") (.obj []) with
  | .obj fields => .ok (Json.lookup name fields)
  | _ => .error .attributeError

/-- The pull requests of the branches of an Issue, the last one of each branch. -/
def issueBranches (issue : Int) (pulls : List Json) : Py (Dict String Json) :=
  pulls.foldlM (fun branches pull =>
    match pull with
    | .obj _ => do
        match ← headMember pull "ref" with
        | some (.str branch) =>
            if ("issue-" ++ toString issue ++ "-").scalars.isPrefixOf branch.scalars then
              return branches.set branch pull
            else return branches
        | _ => return branches
    | _ => return branches) .empty

def completedBranches [Ed25519] (view : LedgerView) : Dict String AuthorizationView :=
  (view.authorizations.values.filter fun current => current.state = .completed).foldl
    (fun completed current => completed.set current.authorized.executionBranch.val current) .empty

/-- A pull request at the head its authorization published. -/
structure PublishedPull where
  number : Int
  branch : String
  head : Sha40
  parentAuthorizationId : AuthorizationId

def PublishedPull.observe [Ed25519] (branch : String) (parent : AuthorizationView)
    (sha number : Option Json) : Option PublishedPull :=
  match sha, number with
  | some (.str sha), some (.int number) =>
      parent.published.bind fun published =>
        if published.headSha.val = sha then
          some ⟨number, branch, published.headSha, parent.authorizationId⟩
        else none
  | _, _ => none

/-- The one open pull request of the Issue that may be remediated. -/
def publishedPull [Ed25519] (listing : Py Json) (view : LedgerView) (issue : Int) :
    Py (Option PublishedPull) :=
  if view.active.isSome then .ok none
  else if (completedBranches view).entries = [] then .ok none
  else do
    match ← listing with
    | .arr pulls => do
        match (← issueBranches issue pulls).entries with
        | [(branch, pull)] =>
            match (completedBranches view).get? branch with
            | none => return none
            | some parent =>
                return PublishedPull.observe branch parent (← headMember pull "sha") (pull.get? "number")
        | _ => return none
    | _ => .error (.factsUnavailable "open pull request listing missing")

/-- An open finding of the pull request that a trusted reviewer made at its head, that
is not ambiguous and has an attempt left. -/
def Finding.Eligible (trustedReviewers : List String) (number : Int) (head : Sha40)
    (item : Finding) : Prop :=
  (item.pullRequestNumber = number ∧ item.isOpen = true ∧ item.proven = none) ∧
    authorName item.ingested.provenance.reviewer.val ∈ trustedReviewers.map authorName ∧
    (∀ c ∈ item.classification, c.outcome ≠ .ambiguous) ∧
    item.ingested.provenance.reviewedHeadSha = head ∧
    item.remediations.length + 1 ≤ maxRemediationsPerFinding

instance (trustedReviewers : List String) (number : Int) (head : Sha40) (item : Finding) :
    Decidable (item.Eligible trustedReviewers number head) := by
  unfold Finding.Eligible
  infer_instance

/-- `sorted(known.findings.items())`. -/
def KnowledgeView.sortedFindings (known : KnowledgeView) : List (Sha64 × Finding) :=
  known.findings.entries.insertionSort fun a b => a.1.val.scalars ≤ b.1.val.scalars

def KnowledgeView.eligible (known : KnowledgeView) (trustedReviewers : List String) (number : Int)
    (head : Sha40) : List (Sha64 × Finding) :=
  known.sortedFindings.filter fun found => found.2.Eligible trustedReviewers number head

structure SelectedFinding where
  findingId : Sha64
  path : RepoPath
  claim : Claim

structure RemediationCandidate where
  pullRequestNumber : Int
  branch : String
  boundHeadSha : Sha40
  parentAuthorizationId : AuthorizationId
  findings : List SelectedFinding
  attempts : List Nat

def selectedFinding (found : Sha64 × Finding) : SelectedFinding :=
  ⟨found.1, found.2.ingested.provenance.path, found.2.ingested.claim⟩

def nextAttempt (found : Sha64 × Finding) : Nat := found.2.remediations.length + 1

def PublishedPull.candidate (pull : PublishedPull) (selected : List (Sha64 × Finding)) :
    RemediationCandidate where
  pullRequestNumber := pull.number
  branch := pull.branch
  boundHeadSha := pull.head
  parentAuthorizationId := pull.parentAuthorizationId
  findings := (selected.map selectedFinding).take maxRemediationFindings
  attempts := (selected.map nextAttempt).take maxRemediationFindings

def eligibleRemediation [Ed25519] (listing : Py Json) (view : LedgerView) (known : KnowledgeView)
    (issue : Int) (trustedReviewers : List String) : Py (Option RemediationCandidate) := do
  match ← publishedPull listing view issue with
  | none => return none
  | some pull =>
      let selected := known.eligible trustedReviewers pull.number pull.head
      if maxRemediationsPerPr ≤ known.remediationsForPr pull.number ∨ selected = [] then return none
      else return some (pull.candidate selected)

def remediationWrites (candidate : RemediationCandidate) (authorizationId : AuthorizationId) :
    List Write :=
  (candidate.findings.zip candidate.attempts).map fun (item, attempt) =>
    ⟨.remediationRequested, [("finding_id", .str item.findingId.val), ("attempt", .int attempt),
      ("pull_request_number", .int candidate.pullRequestNumber),
      ("bound_head_sha", .str candidate.boundHeadSha.val),
      ("authorization_id", .str authorizationId.val)]⟩

theorem eligibleRemediation_ok [Ed25519] {listing : Py Json} {view : LedgerView}
    {known : KnowledgeView} {issue : Int} {trustedReviewers : List String} {pull : PublishedPull}
    (observed : publishedPull listing view issue = .ok (some pull)) {candidate : RemediationCandidate} :
    eligibleRemediation listing view known issue trustedReviewers = .ok (some candidate) ↔
      known.remediationsForPr pull.number < maxRemediationsPerPr ∧
        known.eligible trustedReviewers pull.number pull.head ≠ [] ∧
        pull.candidate (known.eligible trustedReviewers pull.number pull.head) = candidate := by
  rw [eligibleRemediation, observed, ok_bind]
  dsimp only
  split
  · rename_i exhausted
    refine iff_of_false nofun fun ⟨budget, present, _⟩ => ?_
    exact exhausted.elim (Nat.not_le.mpr budget) present
  · rename_i left
    rw [not_or, Nat.not_le] at left
    simp only [pure_eq_ok, ok_inj, Option.some.injEq, left.1, ne_eq, left.2, not_false_eq_true,
      true_and]

theorem eligibleRemediation_pull [Ed25519] {listing : Py Json} {view : LedgerView}
    {known : KnowledgeView} {issue : Int} {trustedReviewers : List String}
    {candidate : RemediationCandidate}
    (h : eligibleRemediation listing view known issue trustedReviewers = .ok (some candidate)) :
    ∃ pull, publishedPull listing view issue = .ok (some pull) := by
  obtain ⟨found, observed, rest⟩ := bind_ok.mp h
  cases found with
  | none => cases rest
  | some pull => exact ⟨pull, observed⟩

/-- The finding is one of the view, and it may be requested. -/
theorem mem_eligible {known : KnowledgeView} {trustedReviewers : List String} {number : Int}
    {head : Sha40} {found : Sha64 × Finding} :
    found ∈ known.eligible trustedReviewers number head ↔
      known.findings.get? found.1 = some found.2 ∧
        found.2.Eligible trustedReviewers number head := by
  rw [KnowledgeView.eligible, List.mem_filter, decide_eq_true_iff, KnowledgeView.sortedFindings,
    List.mem_insertionSort, Dict.get?_eq_some_iff]

theorem eligible_nodup (known : KnowledgeView) (trustedReviewers : List String) (number : Int)
    (head : Sha40) : ((known.eligible trustedReviewers number head).map Prod.fst).Nodup := by
  have sorted : (known.sortedFindings.map Prod.fst).Nodup :=
    ((List.perm_insertionSort _ _).map Prod.fst).nodup_iff.mpr known.findings.nodup
  exact sorted.sublist (List.filter_sublist.map Prod.fst)

theorem length_eligible (known : KnowledgeView) (reviewers : List String) (number : Int)
    (head : Sha40) : (known.eligible reviewers number head).length =
      known.findings.values.countP fun item => item.Eligible reviewers number head := by
  rw [KnowledgeView.eligible, KnowledgeView.sortedFindings, ← List.countP_eq_length_filter,
    (List.perm_insertionSort _ _).countP_eq, Dict.values, List.countP_map]
  rfl

theorem Run.home {repositoryId : Int} {records : List Record} {view : KnowledgeView}
    (h : Run Extends (.empty repositoryId) records view) : view.repositoryId = repositoryId :=
  h.preserves (fun view => view.repositoryId = repositoryId)
    (fun _ _ _ before step => step.repositoryId.trans before) rfl

theorem Extends.taken_iff {view view' : KnowledgeView} {record : Record}
    (h : Extends view record view') (kind : Kind) (key : Sha64) :
    view'.Taken kind key ↔
      (kind = record.kind ∧ key = record.evidence.key) ∨ view.Taken kind key := by
  rw [KnowledgeView.Taken, h.keys, Dict.get?_set, Record.slot, h.key]
  split
  · rename_i same
    have parts := Prod.mk.inj same
    exact iff_of_true rfl (.inl ⟨parts.1, Regex.Matching.ext parts.2⟩)
  · rename_i other
    refine ⟨.inr, fun either => either.elim (fun same => ?_) id⟩
    exact absurd (by rw [same.1, same.2]) other

section Takes

variable [Ed25519] (trust : TrustRoots) (provenance : ProvenanceCheck) (job : Job)

/-- The write is signed on top of the view and applied. -/
def Takes (view : KnowledgeView) (write : Write) (view' : KnowledgeView) : Prop :=
  ∃ key, recordKey write.kind write.json = .ok key ∧
    apply trust provenance view (signedRecord trust.repositoryId view job write key) = .ok view'

/-- The writes are accepted in order. -/
def Accepted (view : KnowledgeView) (writes : List Write) : Prop :=
  ∃ view', Run (Takes trust provenance job) view writes view'

/-- Each record is within its bound, as it is signed after those before it. -/
def Sized (view : KnowledgeView) (writes : List Write) : Prop :=
  ∀ first write second seen key, writes = first ++ write :: second →
    Run (Takes trust provenance job) view first seen → recordKey write.kind write.json = .ok key →
    Fits (signedRecord trust.repositoryId seen job write key)

/-- A run in this role that is trusted and signs with a pinned key. -/
structure TrustedRun (role : Role) : Prop where
  pinned : trust.stateKeys (publicKeyId (Ed25519.publicKey job.signingKey)) =
    some (Ed25519.publicKey job.signingKey)
  repository : 1 ≤ trust.repositoryId
  conforms : ∃ by_ time, job.Conforms by_ time ∧ by_.role = role
  trusted : ∀ by_ time record, job.Conforms by_ time → provenance by_ record = .ok true

variable {trust provenance job}

theorem Job.Conforms.unique {by_ by_' : RecordedBy} {time time' : Timestamp}
    (h : job.Conforms by_ time) (h' : job.Conforms by_' time') : by_ = by_' ∧ time = time' :=
  ⟨Except.ok.inj (h.1.symm.trans h'.1), Regex.Matching.ext (h.2.symm.trans h'.2)⟩

theorem takes_iff {role : Role} {view : KnowledgeView} {evidence : Evidence}
    (run : TrustedRun trust provenance job role) (home : view.repositoryId = trust.repositoryId)
    (writable : evidence.Writable) :
    (∃ view', Takes trust provenance job view (Write.of evidence) view') ↔
      (Fits (signedRecord trust.repositoryId view job (Write.of evidence) evidence.key.val) ∧
        role ∈ writerRoles evidence.kind ∧ ¬view.Taken evidence.kind evidence.key) ∧
      ∃ folded, Admits view evidence folded := by
  have named := named_of writable
  have applied (view' : KnowledgeView) := @apply_signed _ view job (Write.of evidence) _
    ⟨trust.repositoryId, run.repository⟩ view' trust provenance named run.pinned rfl home run.trusted
  obtain ⟨by_, time, conforms, rfl⟩ := run.conforms
  constructor
  · rintro ⟨view', key, same, h⟩
    cases named.symm.trans same
    obtain ⟨fits, by_', time', evidence', writes, folded, admits, -⟩ := (applied view').mp h
    cases (conforms.unique writes.conforms).1
    cases writes.valid.symm.trans (evidenceSchemas_json writable _)
    exact ⟨⟨fits, writes.role, writes.fresh⟩, folded, admits⟩
  · rintro ⟨⟨fits, role, fresh⟩, folded, admits⟩
    refine ⟨_, _, named, (applied _).mpr ⟨fits, by_, time, evidence, ?_, folded, admits, rfl⟩⟩
    exact ⟨conforms, evidenceSchemas_json writable _, role, fresh⟩

theorem Takes.extends {view view' : KnowledgeView} {evidence : Evidence} (writable : evidence.Writable)
    (h : Takes trust provenance job view (Write.of evidence) view') :
    ∃ record, record.evidence = evidence ∧ Extends view record view' := by
  obtain ⟨key, named, applied⟩ := h
  obtain ⟨record, decoded, extended, -, -⟩ := apply_signed_extends named applied
  obtain ⟨-, _, _, _, written, -, -, valid, rfl⟩ := (decodeRecord_signed named).mp decoded
  exact ⟨_, Except.ok.inj (valid.symm.trans (evidenceSchemas_json writable _)), extended⟩

theorem Takes.unique {view first second : KnowledgeView} {write : Write}
    (h : Takes trust provenance job view write first)
    (h' : Takes trust provenance job view write second) : first = second := by
  obtain ⟨key, named, applied⟩ := h
  obtain ⟨key', named', applied'⟩ := h'
  cases named.symm.trans named'
  exact Except.ok.inj (applied.symm.trans applied')

theorem sized_cons {view : KnowledgeView} {evidence : Evidence} {writes : List Write}
    {next : KnowledgeView} (writable : evidence.Writable)
    (first : Takes trust provenance job view (Write.of evidence) next) :
    Sized trust provenance job view (Write.of evidence :: writes) ↔
      Fits (signedRecord trust.repositoryId view job (Write.of evidence) evidence.key.val) ∧
        Sized trust provenance job next writes := by
  constructor
  · intro sized
    refine ⟨sized [] _ writes view _ rfl .nil (named_of writable), ?_⟩
    intro before write after seen key parts run named
    exact sized (Write.of evidence :: before) write after seen key (congrArg _ parts)
      (.cons first run) named
  · rintro ⟨fits, rest⟩ before write after seen key parts run named
    cases before with
    | nil =>
        cases parts
        cases run.nil_inv
        cases named.symm.trans (named_of writable)
        exact fits
    | cons head before =>
        cases parts
        obtain ⟨middle, step, run⟩ := run.cons_inv
        cases first.unique step
        exact rest before write after seen key rfl run named

theorem accepted_cons {view : KnowledgeView} {write : Write} {writes : List Write} :
    Accepted trust provenance job view (write :: writes) ↔
      ∃ next, Takes trust provenance job view write next ∧
        Accepted trust provenance job next writes := by
  constructor
  · rintro ⟨last, run⟩
    obtain ⟨next, first, rest⟩ := run.cons_inv
    exact ⟨next, first, last, rest⟩
  · rintro ⟨next, first, last, rest⟩
    exact ⟨last, .cons first rest⟩

end Takes

section Requests

variable (pull : PublishedPull) (authorizationId : AuthorizationId)

def requestOf (found : Sha64 × Finding) : RemediationRequested where
  findingId := found.1
  attempt := ⟨nextAttempt found, by rw [nextAttempt]; omega⟩
  pullRequestNumber := found.2.ingested.provenance.pullRequestNumber
  boundHeadSha := pull.head
  authorizationId := authorizationId

def requestWrite (found : Sha64 × Finding) : Write :=
  .of (.remediationRequested (requestOf pull authorizationId found))

def requestKey (found : Sha64 × Finding) : Sha64 := remediationKey found.1 (nextAttempt found)

variable {pull authorizationId}

theorem remediationWrites_candidate {selected : List (Sha64 × Finding)}
    (own : ∀ found ∈ selected, found.2.pullRequestNumber = pull.number) :
    remediationWrites (pull.candidate selected) authorizationId =
      (selected.take maxRemediationFindings).map (requestWrite pull authorizationId) := by
  simp only [remediationWrites, PublishedPull.candidate, ← List.map_take, List.zip_map',
    List.map_map]
  refine List.map_congr_left fun found member => ?_
  have number : found.2.ingested.provenance.pullRequestNumber.val = pull.number :=
    own found (List.mem_of_mem_take member)
  simp only [Function.comp_apply, requestWrite, Write.of, Evidence.kind, Evidence.fields,
    RemediationRequested.fields, requestOf, selectedFinding, number]

/-- What a request leaves: its finding has it, and the pull request has one more. -/
theorem Extends.requested {view next : KnowledgeView} {record : Record} {found : Sha64 × Finding}
    (h : Extends view record next)
    (about : record.evidence = .remediationRequested (requestOf pull authorizationId found))
    (known : view.findings.get? found.1 = some found.2) :
    (∀ id, next.findings.get? id = if id = found.1 then
      some (found.2.request (requestOf pull authorizationId found)) else view.findings.get? id) ∧
    ∀ n, next.remediationsForPr n =
      view.remediationsForPr n + if found.2.pullRequestNumber = n then 1 else 0 := by
  obtain ⟨folded, admits, rfl⟩ := h.folds
  rw [about] at admits
  cases admits with
  | finding leaves =>
      cases leaves with
      | request _ item here is_open unproven next budget number pull_budget =>
          cases known.symm.trans here
          refine ⟨fun id => ?_, fun n => ?_⟩
          · rw [KnowledgeView.append_findings, KnowledgeView.get?_setFinding]
            rfl
          · have sum := @KnowledgeView.remediationsForPr_setFinding view found.1
              (found.2.request (requestOf pull authorizationId found)) n
            rw [known] at sum
            have same : (found.2.request (requestOf pull authorizationId found)).pullRequestNumber =
                found.2.pullRequestNumber := rfl
            have more : (found.2.request (requestOf pull authorizationId found)).remediations.length =
                found.2.remediations.length + 1 := List.length_append
            rw [Option.elim_some, same, more] at sum
            change (view.setFinding found.1
              (found.2.request (requestOf pull authorizationId found))).remediationsForPr n = _
            by_cases here : found.2.pullRequestNumber = n
            · rw [if_pos here, if_pos here] at sum
              rw [if_pos here]
              omega
            · rw [if_neg here, if_neg here] at sum
              rw [if_neg here]
              omega

/-- The keys of the requests are free, and each is that of one request. -/
def Unused (view : KnowledgeView) (selected : List (Sha64 × Finding)) : Prop :=
  (∀ found ∈ selected, ¬view.Taken .remediationRequested (requestKey found)) ∧
    (selected.map requestKey).Nodup

variable [Ed25519] {trust : TrustRoots} {provenance : ProvenanceCheck} {job : Job}

theorem request_takes {view : KnowledgeView} {found : Sha64 × Finding} {reviewers : List String}
    (run : TrustedRun trust provenance job .reconcile) (home : view.repositoryId = trust.repositoryId)
    (known : view.findings.get? found.1 = some found.2)
    (eligible : found.2.Eligible reviewers pull.number pull.head) :
    (∃ next, Takes trust provenance job view (requestWrite pull authorizationId found) next) ↔
      Fits (signedRecord trust.repositoryId view job (requestWrite pull authorizationId found)
        (requestKey found).val) ∧
      ¬view.Taken .remediationRequested (requestKey found) ∧
        view.remediationsForPr pull.number < maxRemediationsPerPr := by
  obtain ⟨⟨number, is_open, unproven⟩, -, -, -, budget⟩ := eligible
  refine (@takes_iff _ trust provenance job _ _ (.remediationRequested (requestOf pull
    authorizationId found)) run home trivial).trans ?_
  have role : Role.reconcile ∈ writerRoles .remediationRequested := by decide
  constructor
  · rintro ⟨⟨fits, -, fresh⟩, folded, admits⟩
    refine ⟨fits, fresh, ?_⟩
    cases admits with
    | finding leaves =>
        cases leaves with
        | request _ item here is_open unproven next budget own pull_budget =>
            cases known.symm.trans here
            rwa [number] at pull_budget
  · rintro ⟨fits, fresh, pull_budget⟩
    refine ⟨⟨fits, role, fresh⟩, _, .finding (.request _ _ known is_open unproven rfl ?_ rfl ?_)⟩
    · exact Int.ofNat_le.mpr budget
    · rwa [number]

/-- Requests of one pull request are accepted as far as its budget goes. -/
theorem requests_accepted {view : KnowledgeView} {reviewers : List String}
    {selected : List (Sha64 × Finding)} (run : TrustedRun trust provenance job .reconcile)
    (home : view.repositoryId = trust.repositoryId)
    (bounded : view.remediationsForPr pull.number ≤ maxRemediationsPerPr)
    (distinct : (selected.map Prod.fst).Nodup)
    (eligible : ∀ found ∈ selected, view.findings.get? found.1 = some found.2 ∧
      found.2.Eligible reviewers pull.number pull.head) :
    Accepted trust provenance job view (selected.map (requestWrite pull authorizationId)) ↔
      view.remediationsForPr pull.number + selected.length ≤ maxRemediationsPerPr ∧
        Unused view selected ∧
        Sized trust provenance job view (selected.map (requestWrite pull authorizationId)) := by
  induction selected generalizing view with
  | nil =>
      have unused : Unused view [] := ⟨fun _ inside => absurd inside List.not_mem_nil, List.nodup_nil⟩
      have sized : Sized trust provenance job view [] := by
        intro first write second seen key parts
        simp at parts
      rw [List.map_nil, List.length_nil, Nat.add_zero]
      exact iff_of_true ⟨view, .nil⟩ ⟨bounded, unused, sized⟩
  | cons found selected ih =>
      obtain ⟨⟨known, here⟩, others⟩ := List.forall_mem_cons.mp eligible
      obtain ⟨fresh, distinct⟩ := List.nodup_cons.mp distinct
      have takes := @request_takes pull authorizationId _ trust provenance job _ _ _ run home known here
      -- what is left to request is as eligible after the first request as before it
      have after {next : KnowledgeView}
          (step : Takes trust provenance job view (requestWrite pull authorizationId found) next) :
          (Accepted trust provenance job next (selected.map (requestWrite pull authorizationId)) ↔
            view.remediationsForPr pull.number + (selected.length + 1) ≤ maxRemediationsPerPr ∧
              Unused next selected ∧ Sized trust provenance job next
                (selected.map (requestWrite pull authorizationId))) ∧
          ∀ key, next.Taken .remediationRequested key ↔
            key = requestKey found ∨ view.Taken .remediationRequested key := by
        obtain ⟨record, about, extended⟩ := @Takes.extends _ trust provenance job _ _
          (.remediationRequested (requestOf pull authorizationId found)) trivial step
        obtain ⟨findings, counts⟩ := extended.requested about known
        have count := counts pull.number
        rw [if_pos here.1.1] at count
        have budget := (takes.mp ⟨next, step⟩).2.2
        have still (other : Sha64 × Finding) (member : other ∈ selected) :
            next.findings.get? other.1 = some other.2 := by
          have apart : other.1 ≠ found.1 := fun same => fresh (same ▸ List.mem_map_of_mem member)
          rw [findings, if_neg apart, (others other member).1]
        have rest := ih (extended.repositoryId.trans home) (count ▸ budget) distinct
          fun other member => ⟨still other member, (others other member).2⟩
        rw [count, Nat.add_assoc, Nat.add_comm 1] at rest
        refine ⟨rest, fun key => ?_⟩
        rw [extended.taken_iff, Record.kind, about]
        exact or_congr_left (and_iff_right rfl)
      have sized_iff {next : KnowledgeView}
          (step : Takes trust provenance job view (requestWrite pull authorizationId found) next) :=
        @sized_cons _ trust provenance job _ (.remediationRequested (requestOf pull authorizationId
          found)) (selected.map (requestWrite pull authorizationId)) _ trivial step
      rw [List.map_cons, accepted_cons, List.length_cons]
      constructor
      · rintro ⟨next, step, accepted⟩
        obtain ⟨rest, taken⟩ := after step
        obtain ⟨budget, ⟨free, nodup⟩, sized⟩ := rest.mp accepted
        obtain ⟨fits, unused, -⟩ := takes.mp ⟨next, step⟩
        refine ⟨budget, ⟨List.forall_mem_cons.mpr ⟨unused, fun other member held => ?_⟩, ?_⟩, ?_⟩
        · exact free other member ((taken _).mpr (.inr held))
        · refine List.nodup_cons.mpr ⟨fun member => ?_, nodup⟩
          obtain ⟨other, present, same⟩ := List.mem_map.mp member
          exact free other present ((taken _).mpr (.inl same))
        · exact (sized_iff step).mpr ⟨fits, sized⟩
      · rintro ⟨budget, ⟨free, nodup⟩, sized⟩
        obtain ⟨unused, free⟩ := List.forall_mem_cons.mp free
        obtain ⟨apart, nodup⟩ := List.nodup_cons.mp nodup
        have fits := sized [] _ _ view _ rfl .nil
          (@named_of (.remediationRequested (requestOf pull authorizationId found)) trivial)
        obtain ⟨next, step⟩ := takes.mpr ⟨fits, unused, by omega⟩
        obtain ⟨rest, taken⟩ := after step
        refine ⟨next, step, rest.mpr ⟨budget, ⟨fun other member held => ?_, nodup⟩, ?_⟩⟩
        · cases (taken _).mp held with
          | inl same => exact apart (same ▸ List.mem_map_of_mem member)
          | inr before => exact free other member before
        · exact ((sized_iff step).mp sized).2

/-- No two requests that are recorded or come next have one key. -/
def ApartRequests (known : KnowledgeView) : Prop :=
  ∀ a b item item' (m n : Nat), known.findings.get? a = some item →
    known.findings.get? b = some item' → m ≤ item.remediations.length + 1 →
    n ≤ item'.remediations.length + 1 → remediationKey a m = remediationKey b n → a = b ∧ m = n

omit [Ed25519] in
theorem unused_of_apart {known : KnowledgeView} {repositoryId : Int} {records : List Record}
    {selected : List (Sha64 × Finding)} (history : Run Extends (.empty repositoryId) records known)
    (apart : ApartRequests known) (distinct : (selected.map Prod.fst).Nodup)
    (present : ∀ found ∈ selected, known.findings.get? found.1 = some found.2) :
    Unused known selected := by
  constructor
  · intro found member taken
    obtain ⟨evidence, kind, key, shown⟩ := Run.shown history _ _ taken
    cases evidence with
    | remediationRequested e =>
        obtain ⟨item, here, requested⟩ := shown
        obtain ⟨i, at_i⟩ := List.mem_iff_getElem?.mp requested
        have attempt := ((Run.sound history).2.1 _ _ here).attempts i e at_i
        obtain ⟨bound, -⟩ := List.getElem?_eq_some_iff.mp at_i
        have same : remediationKey e.findingId ((i + 1 : Nat) : Int) =
            remediationKey found.1 (nextAttempt found) := by
          rw [show ((i + 1 : Nat) : Int) = e.attempt.val from attempt.symm]
          exact key
        obtain ⟨one, later⟩ := apart _ _ _ _ _ _ here (present found member) (by omega)
          (Nat.le_refl _) same
        have all : found.2 = item := Option.some.inj
          ((present found member).symm.trans (one ▸ here))
        rw [all] at later
        omega
    | _ => cases kind
  · refine (List.pairwise_map.mpr ?_ : List.Pairwise _ _)
    refine (List.pairwise_map.mp distinct).imp_of_mem fun {a b} left right other same => other ?_
    exact (apart _ _ _ _ _ _ (present a left) (present b right) (Nat.le_refl _) (Nat.le_refl _)
      same).1

/-- The requests of a candidate are accepted exactly if they are within the budget of
the pull request and their records within their bound. -/
theorem remediation_recordable {entries : List Json} {known : KnowledgeView} {listing : Py Json}
    {view : LedgerView} {issue : Int} {trustedReviewers : List String} {pull : PublishedPull}
    {candidate : RemediationCandidate} {authorizationId : AuthorizationId}
    (verified : applyAll trust provenance entries = .ok known) (apart : ApartRequests known)
    (run : TrustedRun trust provenance job .reconcile)
    (observed : publishedPull listing view issue = .ok (some pull))
    (eligible : eligibleRemediation listing view known issue trustedReviewers =
      .ok (some candidate)) :
    Accepted trust provenance job known (remediationWrites candidate authorizationId) ↔
      known.remediationsForPr pull.number + min maxRemediationFindings (known.findings.values.countP
        fun item => item.Eligible trustedReviewers pull.number pull.head) ≤ maxRemediationsPerPr ∧
      Sized trust provenance job known (remediationWrites candidate authorizationId) := by
  obtain ⟨records, -, history⟩ := applyAll_run verified
  obtain ⟨budget, -, rfl⟩ := (eligibleRemediation_ok observed).mp eligible
  have each (found : Sha64 × Finding)
      (member : found ∈ known.eligible trustedReviewers pull.number pull.head) :=
    mem_eligible.mp member
  rw [remediationWrites_candidate fun found member => (each found member).2.1.1,
    ← length_eligible, ← List.length_take]
  have distinct := (eligible_nodup known trustedReviewers pull.number pull.head).sublist
    ((List.take_sublist maxRemediationFindings _).map Prod.fst)
  have taken (found : Sha64 × Finding) (member : found ∈
      (known.eligible trustedReviewers pull.number pull.head).take maxRemediationFindings) :=
    each found (List.mem_of_mem_take member)
  have unused := unused_of_apart history apart distinct fun found member => (taken found member).1
  rw [requests_accepted run (Run.home history) (Nat.le_of_lt budget) distinct taken,
    and_iff_right unused]

end Requests

section Sample

local instance remediationScheme : Ed25519 := checksumScheme

def sampleListing : Json :=
  .arr [.obj [("number", .int 6), ("head", .obj [
    ("ref", .str sampleAuthorized.executionBranch.val), ("sha", .str sampleBase.val)])]]

def samplePull : PublishedPull :=
  ⟨6, sampleAuthorized.executionBranch.val, sampleBase, sampleId⟩

theorem sample_pull {view : LedgerView} {current : AuthorizationView} (h : Completed view current) :
    publishedPull (.ok sampleListing) view 5 = .ok (some samplePull) := by
  have branches : completedBranches view =
      Dict.empty.set sampleAuthorized.executionBranch.val current := by
    simp only [completedBranches, Dict.values, h.alone, List.map_cons, List.map_nil, h.state,
      decide_true, List.filter_cons_of_pos, List.filter_nil, List.foldl_cons, List.foldl_nil,
      h.authorized]
  have listed : issueBranches 5 [.obj [("number", .int 6), ("head", .obj [
      ("ref", .str sampleAuthorized.executionBranch.val), ("sha", .str sampleBase.val)])]] =
      .ok (Dict.empty.set sampleAuthorized.executionBranch.val (.obj [("number", .int 6), ("head",
        .obj [("ref", .str sampleAuthorized.executionBranch.val), ("sha", .str sampleBase.val)])])) := by
    have own : ("issue-" ++ toString (5 : Int) ++ "-").scalars.isPrefixOf
        sampleAuthorized.executionBranch.val.scalars = true := by decide
    have ref : headMember (.obj [("number", .int 6), ("head", .obj [
        ("ref", .str sampleAuthorized.executionBranch.val), ("sha", .str sampleBase.val)])]) "ref" =
        .ok (some (.str sampleAuthorized.executionBranch.val)) := by
      simp [headMember, Json.get?, Json.lookup, Json.orElse, Json.truthy]
    simp only [issueBranches, List.foldlM_cons, List.foldlM_nil, ref, ok_bind, own, if_true,
      pure_eq_ok]
  have inactive : view.active.isSome = false := by rw [h.inactive]; rfl
  simp only [publishedPull, inactive, branches, sampleListing, listed, ok_bind, Bool.false_eq_true,
    if_false]
  simp [Dict.set, Dict.empty, Dict.put, Dict.get?, Dict.find, headMember, Json.orElse, Json.get?,
    Json.lookup, Json.truthy, PublishedPull.observe, h.published, h.owner, samplePull, samplePublished]

/-- A review comment at the head of the pull request. -/
theorem successor_pos (n : Nat) : (1 : Int) ≤ n + 1 := by omega

def sampleReview (n : Nat) : FindingIngested where
  findingId := findingId 1 6 (n + 1)
  fingerprint := fingerprint samplePath.val sampleClaim.val
  claim := sampleClaim
  provenance := ⟨6, sampleBase, sampleBase, none, .githubReview, sampleLogin, ⟨n + 1, successor_pos n⟩,
    samplePath, none, none⟩

def sampleReviewed : Nat → KnowledgeView
  | 0 => .empty 1
  | n + 1 =>
      sampleNext (sampleReviewed n) (.findingIngested (sampleReview n))
        ((sampleReviewed n).setFinding (sampleReview n).findingId (.start (sampleReview n)))

theorem sample_reviews_distinct :
    ((List.range 6).map fun n => (sampleReview n).findingId.val).Nodup := by
  decide +kernel

theorem sampleReview_ne {m n : Nat} (below : m < n) (few : n < 6) :
    (sampleReview n).findingId ≠ (sampleReview m).findingId := by
  intro same
  have equal := (List.nodup_map_iff_inj_on List.nodup_range).mp sample_reviews_distinct n
    (List.mem_range.mpr few) m (List.mem_range.mpr (by omega)) (congrArg _ same)
  omega

/-- The ledger of some reviews: the findings in order, and no other key. -/
structure Reviewed (n : Nat) (view : KnowledgeView) : Prop where
  home : view.repositoryId = 1
  seq : view.nextSeq = n
  entries : view.findings.entries = (List.range n).map fun k =>
    ((sampleReview k).findingId, Finding.start (sampleReview k))
  keys : ∀ slot, (∀ k < n, slot ≠ (.findingIngested, (sampleReview k).findingId.val)) →
    view.keys.get? slot = none

theorem put_new {κ β : Type} [DecidableEq κ] {key : κ} {value : β} {entries : List (κ × β)}
    (fresh : key ∉ entries.map Prod.fst) : Dict.put key value entries = entries ++ [(key, value)] := by
  induction entries with
  | nil => rfl
  | cons entry entries ih =>
      obtain ⟨other, fresh⟩ := not_or.mp (mt List.mem_cons.mpr fresh)
      rw [Dict.put, if_neg (Ne.symm other), ih fresh, List.cons_append]

theorem sample_review_admits (n : Nat) (view : KnowledgeView) (home : view.repositoryId = 1) :
    Admits view (.findingIngested (sampleReview n))
      (view.setFinding (sampleReview n).findingId (.start (sampleReview n))) := by
  refine .finding (.ingest _ rfl ?_ rfl)
  rw [home]
  rfl

theorem sampleReviewed_reviewed {n : Nat} (few : n ≤ 6) : Reviewed n (sampleReviewed n) := by
  induction n with
  | zero => exact ⟨rfl, rfl, rfl, fun _ _ => rfl⟩
  | succ n ih =>
      have before := ih (by omega)
      refine ⟨before.home, congrArg (· + 1) before.seq, ?_, fun slot other => ?_⟩
      · have fresh : (sampleReview n).findingId ∉ (sampleReviewed n).findings.entries.map Prod.fst := by
          rw [before.entries, List.map_map]
          intro member
          obtain ⟨k, below, same⟩ := List.mem_map.mp member
          exact sampleReview_ne (List.mem_range.mp below) (by omega) same.symm
        refine (put_new fresh).trans ?_
        rw [before.entries, List.range_succ, List.map_append]
        rfl
      · refine (sample_slot (sample_review_admits n _ before.home) slot).trans ?_
        refine (if_neg (other n (Nat.lt_succ_self n))).trans ?_
        exact before.keys slot fun k below => other k (by omega)

theorem sample_review_steps {n : Nat} (few : n < 6) :
    SampleStep (sampleReviewed n) (.findingIngested (sampleReview n)) (sampleReviewed (n + 1)) := by
  have before := sampleReviewed_reviewed (Nat.le_of_lt few)
  have numbers : ∀ n < 6, numbersWeight (Evidence.findingIngested (sampleReview n)).numbers ≤ 100 ∧
      Json.weight (.int (n : Nat)) ≤ 100 := by
    decide
  have small := weight_ingested (sampleReview n)
  have number := numbers n few
  have role : Role.reconcile ∈ writerRoles .findingIngested := by decide
  refine ⟨trivial, role, ?_, before.home, ?_, before.keys _ ?_, _,
    sample_review_admits n _ before.home, rfl⟩
  · omega
  · rw [before.seq]
    exact number.2
  · intro k below same
    exact sampleReview_ne below few (Regex.Matching.ext (Prod.mk.inj same).2)

theorem sample_reviews_run {n : Nat} (few : n ≤ 6) :
    Run (fun view evidence view' => SampleStep view evidence view' ∧ True) (.empty 1)
      ((List.range n).map fun k => .findingIngested (sampleReview k)) (sampleReviewed n) := by
  induction n with
  | zero => exact .nil
  | succ n ih =>
      rw [List.range_succ, List.map_append]
      exact (ih (by omega)).snoc ⟨sample_review_steps few, trivial⟩

theorem sample_reviews_eligible {n : Nat} (few : n ≤ 6) :
    (sampleReviewed n).findings.values.countP (fun item =>
      item.Eligible [sampleLogin.val] samplePull.number samplePull.head) = n ∧
    (sampleReviewed n).remediationsForPr samplePull.number = 0 := by
  have values : (sampleReviewed n).findings.values =
      (List.range n).map fun k => Finding.start (sampleReview k) := by
    rw [Dict.values, (sampleReviewed_reviewed few).entries, List.map_map]
    rfl
  have each (k : Nat) : (Finding.start (sampleReview k)).Eligible [sampleLogin.val]
      samplePull.number samplePull.head :=
    ⟨⟨rfl, rfl, rfl⟩, List.mem_singleton_self _, by rintro _ ⟨⟩, rfl, Nat.le_succ 1⟩
  constructor
  · rw [values, List.countP_map, List.countP_eq_length.mpr, List.length_range]
    exact fun k _ => decide_eq_true (each k)
  · rw [KnowledgeView.remediationsForPr, values]
    refine List.sum_eq_zero_iff_forall_eq_nat.mpr fun length member => ?_
    obtain ⟨item, present, rfl⟩ := List.mem_map.mp member
    obtain ⟨k, -, rfl⟩ := List.mem_map.mp (List.mem_filter.mp present).1
    rfl

theorem sample_candidate {view : LedgerView} {current : AuthorizationView}
    (completed : Completed view current) {n : Nat} (few : n + 1 ≤ 6) :
    eligibleRemediation (.ok sampleListing) view (sampleReviewed (n + 1)) 5 [sampleLogin.val] =
      .ok (some (samplePull.candidate ((sampleReviewed (n + 1)).eligible [sampleLogin.val]
        samplePull.number samplePull.head))) := by
  obtain ⟨count, none_⟩ := sample_reviews_eligible few
  refine (eligibleRemediation_ok (sample_pull completed)).mpr ⟨none_ ▸ by decide, ?_, rfl⟩
  intro empty
  have length := length_eligible (sampleReviewed (n + 1)) [sampleLogin.val] samplePull.number
    samplePull.head
  rw [empty, count] at length
  cases length

theorem sample_trustedRun : TrustedRun sampleTrust sampleProvenance sampleJob .reconcile where
  pinned := sample_trusted.pinned
  repository := by decide
  conforms := ⟨_, _, sample_conforms, rfl⟩
  trusted := fun _ _ _ _ => rfl

/-- Six findings of a pull request are one candidate, and its budget is five. -/
theorem remediation_recordable_fails : ∃ chain view entries known candidate,
    verifyChain sampleTrust (fun _ _ => .ok true) 1 5 chain = .ok view ∧
    applyAll sampleTrust sampleProvenance entries = .ok known ∧
    TrustedRun sampleTrust sampleProvenance sampleJob .reconcile ∧
    eligibleRemediation (.ok sampleListing) view known 5 [sampleLogin.val] =
      .ok (some candidate) ∧
    ¬Accepted sampleTrust sampleProvenance sampleJob known (remediationWrites candidate sampleId) := by
  obtain ⟨view, run, current, completed⟩ := sample_run
  obtain ⟨entries, verified, -⟩ := sample_ledger (sample_reviews_run (Nat.le_refl 6))
  refine ⟨_, view, entries, _, _, (sampleChain_verifies run).1, verified, sample_trustedRun,
    sample_candidate completed (Nat.le_refl 6), fun accepted => ?_⟩
  obtain ⟨count, none_⟩ := sample_reviews_eligible (Nat.le_refl 6)
  rw [← length_eligible] at count
  have each (found : Sha64 × Finding) (member : found ∈ (sampleReviewed 6).eligible
      [sampleLogin.val] samplePull.number samplePull.head) := mem_eligible.mp member
  have all := List.take_of_length_le (Nat.le_trans (Nat.le_of_eq count)
    (by decide : 6 ≤ maxRemediationFindings))
  rw [remediationWrites_candidate fun found member => (each found member).2.1.1, all] at accepted
  have budget := ((requests_accepted sample_trustedRun (sampleReviewed_reviewed (Nat.le_refl 6)).home
    (none_ ▸ Nat.zero_le _) (eligible_nodup _ _ _ _) each).mp accepted).1
  rw [count, none_] at budget
  exact absurd budget (by decide)

/-- One finding, for the first time. -/
theorem remediation_recordable_sample : ∃ view entries known candidate,
    applyAll sampleTrust sampleProvenance entries = .ok known ∧
    eligibleRemediation (.ok sampleListing) view known 5 [sampleLogin.val] =
      .ok (some candidate) ∧
    Accepted sampleTrust sampleProvenance sampleJob known (remediationWrites candidate sampleId) := by
  obtain ⟨view, run, current, completed⟩ := sample_run
  obtain ⟨entries, verified, -⟩ := sample_ledger (sample_reviews_run (by decide : 1 ≤ 6))
  obtain ⟨count, none_⟩ := sample_reviews_eligible (by decide : 1 ≤ 6)
  have eligible := sample_candidate completed (by decide : 0 + 1 ≤ 6)
  have apart : ApartRequests (sampleReviewed 1) := by
    intro a b item item' m n first second low high same
    have one (id : Sha64) (item : Finding) (found : (sampleReviewed 1).findings.get? id = some item) :
        id = (sampleReview 0).findingId ∧ item.remediations.length = 0 := by
      rw [Dict.get?_eq_some_iff, (sampleReviewed_reviewed (by decide)).entries] at found
      cases List.mem_singleton.mp found
      exact ⟨rfl, rfl⟩
    have differ : remediationKey (sampleReview 0).findingId (0 : Nat) ≠
        remediationKey (sampleReview 0).findingId (1 : Nat) := by decide +kernel
    obtain ⟨rfl, left⟩ := one a item first
    obtain ⟨rfl, right⟩ := one b item' second
    rw [left] at low
    rw [right] at high
    have small (k : Nat) (few : k ≤ 0 + 1) : k = 0 ∨ k = 1 := by omega
    refine ⟨rfl, ?_⟩
    cases small m low with
    | inl first =>
        subst first
        cases small n high with
        | inl second => exact second.symm
        | inr second =>
            subst second
            exact absurd same differ
    | inr first =>
        subst first
        cases small n high with
        | inl second =>
            subst second
            exact absurd same.symm differ
        | inr second => exact second.symm
  refine ⟨view, entries, _, _, verified, eligible, ?_⟩
  refine (remediation_recordable verified apart sample_trustedRun (sample_pull completed)
    eligible).mpr ⟨?_, ?_⟩
  · rw [count, none_]
    decide
  · rw [← length_eligible] at count
    have each (found : Sha64 × Finding) (member : found ∈ (sampleReviewed 1).eligible
        [sampleLogin.val] samplePull.number samplePull.head) := mem_eligible.mp member
    obtain ⟨found, single⟩ := List.length_eq_one_iff.mp count
    have here := (each found (single ▸ List.mem_singleton_self _)).1
    rw [Dict.get?_eq_some_iff, (sampleReviewed_reviewed (by decide)).entries] at here
    have same : found = ((sampleReview 0).findingId, Finding.start (sampleReview 0)) :=
      List.mem_singleton.mp here
    rw [remediationWrites_candidate fun found member => (each found member).2.1.1, single, same]
    intro before write after seen key parts run named
    cases before with
    | cons other before => simp [maxRemediationFindings] at parts
    | nil =>
        cases run.nil_inv
        obtain ⟨rfl, -⟩ := List.cons.inj parts
        cases named.symm.trans (@named_of (.remediationRequested (requestOf samplePull sampleId
          ((sampleReview 0).findingId, Finding.start (sampleReview 0)))) trivial)
        exact sample_fits (by decide +kernel) (by decide +kernel)

end Sample

end Hunter.Knowledge
