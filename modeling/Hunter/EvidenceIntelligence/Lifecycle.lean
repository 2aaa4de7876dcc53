import Hunter.EvidenceIntelligence.Claims
import Hunter.Machine.Run

/-!
The current status of claims and conflicts beside their histories. An operation sets the
status to that of its own event, whatever later events the history has, and an upsert may
move the recorded time of an event; an operation keeps the statuses at the end of the
histories exactly when its event is in order, and what was known by a cutoff exactly when
it hides no event recorded by then.
-/

namespace Hunter.EvidenceIntelligence

open Calendar Execution Fallible Projection

namespace Repository

def claimStatus (r : Repository) (claimId : String) : Option ClaimStatus :=
  (r.claims.get? claimId).map KnowledgeClaim.status

def conflictStatus (r : Repository) (conflictId : String) : Option ConflictStatus :=
  (r.conflicts.get? conflictId).map KnowledgeConflict.status

end Repository

/-- The claim event that an operation puts. -/
def Operation.ClaimEvent (operation : Operation)
    (event : LifecycleEvent ClaimLifecycleEventType ClaimStatus) : Prop :=
  match operation with
  | .persistClaim item => event = acceptedEvent item
  | .appendClaimEvent appended => event = appended.val
  | _ => False

/-- The conflict event that an operation puts, up to its source. -/
def Operation.ConflictEvent (operation : Operation)
    (event : LifecycleEvent ConflictLifecycleEventType ConflictStatus) : Prop :=
  match operation with
  | .persistConflict candidate effectiveAt recordedAt processingRunId =>
      ∃ source, event = detectedEvent candidate effectiveAt recordedAt source processingRunId
  | .appendConflictEvent appended => event = appended.val
  | _ => False

structure SameClaims (r t : Repository) : Prop where
  events : t.claimEvents = r.claimEvents
  status : t.claimStatus = r.claimStatus

structure SameConflicts (r t : Repository) : Prop where
  events : t.conflictEvents = r.conflictEvents
  status : t.conflictStatus = r.conflictStatus

/-- The event is put into the history, and its owner gets its status. -/
structure PutsClaim (r t : Repository)
    (event : LifecycleEvent ClaimLifecycleEventType ClaimStatus) : Prop where
  events : t.claimEvents = lifecycle.put event r.claimEvents
  status : t.claimStatus = Function.update r.claimStatus event.ownerId (some event.newStatus)

structure PutsConflict (r t : Repository)
    (event : LifecycleEvent ConflictLifecycleEventType ConflictStatus) : Prop where
  events : t.conflictEvents = lifecycle.put event r.conflictEvents
  status : t.conflictStatus = Function.update r.conflictStatus event.ownerId (some event.newStatus)

theorem get?_set_map {β γ : Type} (d : Dict String β) (f : β → γ) (key : String) (value : β) :
    (fun other => ((d.set key value).get? other).map f) =
      Function.update (fun other => (d.get? other).map f) key (some (f value)) := by
  funext other
  rw [Dict.get?_set, Function.update_apply]
  by_cases same : other = key
  · subst same
    simp
  · rw [if_neg same, if_neg same]

inductive Writes (r t : Repository) (operation : Operation) : Prop where
  | claim (event : LifecycleEvent ClaimLifecycleEventType ClaimStatus) :
      operation.ClaimEvent event → PutsClaim r t event → SameConflicts r t →
      (∀ other, ¬operation.ConflictEvent other) → Writes r t operation
  | conflict (event : LifecycleEvent ConflictLifecycleEventType ConflictStatus) :
      operation.ConflictEvent event → PutsConflict r t event → SameClaims r t →
      (∀ other, ¬operation.ClaimEvent other) → Writes r t operation
  | neither : SameClaims r t → SameConflicts r t → (∀ other, ¬operation.ClaimEvent other) →
      (∀ other, ¬operation.ConflictEvent other) → Writes r t operation

theorem claimEvent_unique {operation : Operation}
    {event other : LifecycleEvent ClaimLifecycleEventType ClaimStatus}
    (first : operation.ClaimEvent event) (second : operation.ClaimEvent other) : other = event := by
  cases operation with
  | persistClaim item => exact second.trans first.symm
  | appendClaimEvent appended => exact second.trans first.symm
  | persistConflict _ _ _ _ => exact first.elim
  | appendConflictEvent _ => exact first.elim
  | saveSpan _ => exact first.elim

/-- The source of a conflict event says nothing about its place in the history. -/
theorem conflictEvent_inOrder {operation : Operation}
    {event other : LifecycleEvent ConflictLifecycleEventType ConflictStatus}
    (first : operation.ConflictEvent event) (second : operation.ConflictEvent other)
    {current : String → Option ConflictStatus}
    {entries : List (LifecycleEvent ConflictLifecycleEventType ConflictStatus)}
    (order : lifecycle.InOrder current entries event) : lifecycle.InOrder current entries other := by
  cases operation with
  | persistConflict _ _ _ _ =>
      obtain ⟨source, rfl⟩ := first
      obtain ⟨source', rfl⟩ := second
      exact ⟨order.newest, order.moved⟩
  | appendConflictEvent appended => exact second.trans first.symm ▸ order
  | persistClaim _ => exact first.elim
  | appendClaimEvent _ => exact first.elim
  | saveSpan _ => exact first.elim

theorem knowledgeClaim_ok {item : ClaimPersistenceInput} {claim : KnowledgeClaim}
    (made : knowledgeClaim item = .ok claim) : claim.claimId = claimId item ∧ claim.status = .active := by
  unfold knowledgeClaim at made
  obtain ⟨-, made⟩ := require_bind_ok.mp made
  obtain ⟨-, made⟩ := check_ok.mp made
  obtain ⟨-, made⟩ := require_bind_ok.mp made
  obtain ⟨-, made⟩ := check_ok.mp made
  obtain ⟨-, made⟩ := require_bind_ok.mp made
  obtain ⟨-, made⟩ := check_ok.mp made
  obtain ⟨-, made⟩ := check_ok.mp made
  obtain ⟨-, made⟩ := check_ok.mp made
  cases made
  exact ⟨rfl, rfl⟩

theorem knowledgeConflict_ok {candidate : ConflictCandidate} {effectiveAt recordedAt : Moment}
    {conflict : KnowledgeConflict} (made : knowledgeConflict candidate effectiveAt recordedAt = .ok conflict) :
    conflict.conflictId = conflictId candidate ∧ conflict.status = .detected := by
  unfold knowledgeConflict at made
  obtain ⟨-, made⟩ := check_ok.mp made
  obtain ⟨-, made⟩ := check_ok.mp made
  obtain ⟨-, made⟩ := check_ok.mp made
  obtain ⟨-, made⟩ := require_bind_ok.mp made
  cases made
  exact ⟨rfl, rfl⟩

theorem attempt_writes {r t : Repository} {operation : Operation} (done : attempt r operation = .ok t) :
    Writes r t operation := by
  cases operation with
  | persistClaim item =>
      obtain ⟨claim, made, done⟩ := bind_ok.mp done
      obtain ⟨event, checked, done⟩ := bind_ok.mp done
      obtain ⟨sourceLinks, -, done⟩ := bind_ok.mp done
      obtain ⟨spanLinks, -, done⟩ := bind_ok.mp done
      obtain ⟨sourceRows, -, done⟩ := bind_ok.mp done
      obtain ⟨spanRows, -, done⟩ := bind_ok.mp done
      obtain ⟨named, active⟩ := knowledgeClaim_ok made
      have same := lifecycleEvent_ok checked
      cases done
      refine .claim (acceptedEvent item) rfl ⟨congrArg (lifecycle.put · r.claimEvents) same, ?_⟩ ⟨rfl, rfl⟩
        fun _ => id
      show (fun other => ((r.claims.set claim.claimId claim).get? other).map _) = _
      rw [get?_set_map, named, active]
      rfl
  | appendClaimEvent event =>
      simp only [attempt, ClaimPersistenceService.appendLifecycleEvent,
        Repository.appendClaimLifecycleEvent] at done
      split at done
      · cases done
      · cases done
        refine .claim event.val rfl ⟨rfl, ?_⟩ ⟨rfl, rfl⟩ fun _ => id
        exact get?_set_map ..
  | persistConflict candidate effectiveAt recordedAt processingRunId =>
      obtain ⟨conflict, made, done⟩ := bind_ok.mp done
      obtain ⟨source, -, done⟩ := bind_ok.mp done
      obtain ⟨event, checked, done⟩ := bind_ok.mp done
      obtain ⟨claimLinks, -, done⟩ := bind_ok.mp done
      obtain ⟨sourceLinks, -, done⟩ := bind_ok.mp done
      obtain ⟨spanLinks, -, done⟩ := bind_ok.mp done
      obtain ⟨claimRows, -, done⟩ := bind_ok.mp done
      obtain ⟨sourceRows, -, done⟩ := bind_ok.mp done
      obtain ⟨spanRows, -, done⟩ := bind_ok.mp done
      obtain ⟨claimConflictRows, -, done⟩ := bind_ok.mp done
      obtain ⟨named, detected⟩ := knowledgeConflict_ok made
      have same := lifecycleEvent_ok checked
      cases done
      refine .conflict _ ⟨source, rfl⟩ ⟨congrArg (lifecycle.put · r.conflictEvents) same, ?_⟩ ⟨rfl, rfl⟩
        fun _ => id
      show (fun other => ((r.conflicts.set conflict.conflictId conflict).get? other).map _) = _
      rw [get?_set_map, named, detected]
      rfl
  | appendConflictEvent event =>
      simp only [attempt, ConflictPersistenceService.appendLifecycleEvent,
        Repository.appendConflictLifecycleEvent] at done
      split at done
      · cases done
      · cases done
        refine .conflict event.val rfl ⟨rfl, ?_⟩ ⟨rfl, rfl⟩ fun _ => id
        exact get?_set_map ..
  | saveSpan spanId =>
      cases done
      exact .neither ⟨rfl, rfl⟩ ⟨rfl, rfl⟩ (fun _ => id) fun _ => id

/-- Every current status is that of the last event of its history. -/
structure Repository.Agrees (r : Repository) : Prop where
  claims : lifecycle.Agrees r.claimStatus r.claimEvents
  conflicts : lifecycle.Agrees r.conflictStatus r.conflictEvents

/-- The event of an operation that goes through is in order: no later event of its owner has
another status, and if its id is that of an event of another owner, that owner's current
status is the one at the end of the rest of its history. -/
structure Operation.InOrder (r : Repository) (operation : Operation) : Prop where
  claim : ∀ t, attempt r operation = .ok t → ∀ event, operation.ClaimEvent event →
    lifecycle.InOrder r.claimStatus r.claimEvents event
  conflict : ∀ t, attempt r operation = .ok t → ∀ event, operation.ConflictEvent event →
    lifecycle.InOrder r.conflictStatus r.conflictEvents event

theorem SameClaims.agrees {r t : Repository} (same : SameClaims r t) :
    lifecycle.Agrees t.claimStatus t.claimEvents ↔ lifecycle.Agrees r.claimStatus r.claimEvents := by
  rw [same.events, same.status]

theorem SameConflicts.agrees {r t : Repository} (same : SameConflicts r t) :
    lifecycle.Agrees t.conflictStatus t.conflictEvents ↔
      lifecycle.Agrees r.conflictStatus r.conflictEvents := by
  rw [same.events, same.status]

theorem PutsClaim.agrees {r t : Repository}
    {event : LifecycleEvent ClaimLifecycleEventType ClaimStatus} (puts : PutsClaim r t event)
    (agrees : lifecycle.Agrees r.claimStatus r.claimEvents) :
    lifecycle.Agrees t.claimStatus t.claimEvents ↔
      lifecycle.InOrder r.claimStatus r.claimEvents event := by
  rw [puts.events, puts.status]
  exact agrees_put_iff agrees

theorem PutsConflict.agrees {r t : Repository}
    {event : LifecycleEvent ConflictLifecycleEventType ConflictStatus} (puts : PutsConflict r t event)
    (agrees : lifecycle.Agrees r.conflictStatus r.conflictEvents) :
    lifecycle.Agrees t.conflictStatus t.conflictEvents ↔
      lifecycle.InOrder r.conflictStatus r.conflictEvents event := by
  rw [puts.events, puts.status]
  exact agrees_put_iff agrees

theorem Repository.Agrees.attempt_iff {r t : Repository} {operation : Operation} (agrees : r.Agrees)
    (done : attempt r operation = .ok t) : t.Agrees ↔ operation.InOrder r := by
  cases attempt_writes done with
  | claim event own puts same none =>
      constructor
      · intro after
        refine ⟨fun _ _ other also => ?_, fun _ _ other also => absurd also (none other)⟩
        rw [claimEvent_unique own also]
        exact (puts.agrees agrees.claims).mp after.claims
      · intro order
        exact ⟨(puts.agrees agrees.claims).mpr (order.claim t done event own),
          same.agrees.mpr agrees.conflicts⟩
  | conflict event own puts same none =>
      constructor
      · intro after
        refine ⟨fun _ _ other also => absurd also (none other), fun _ _ other also => ?_⟩
        exact conflictEvent_inOrder own also ((puts.agrees agrees.conflicts).mp after.conflicts)
      · intro order
        exact ⟨same.agrees.mpr agrees.claims,
          (puts.agrees agrees.conflicts).mpr (order.conflict t done event own)⟩
  | neither claims conflicts noClaim noConflict =>
      refine iff_of_true ⟨claims.agrees.mpr agrees.claims, conflicts.agrees.mpr agrees.conflicts⟩ ?_
      exact ⟨fun _ _ other also => absurd also (noClaim other),
        fun _ _ other also => absurd also (noConflict other)⟩

/-- An operation keeps the agreement exactly when it is in order. -/
theorem Repository.Agrees.perform_iff {r : Repository} (agrees : r.Agrees) (operation : Operation) :
    (perform r operation).Agrees ↔ operation.InOrder r := by
  unfold perform
  cases done : attempt r operation with
  | ok t => exact agrees.attempt_iff done
  | error exn =>
      refine iff_of_true agrees ⟨fun t also => ?_, fun t also => ?_⟩
      · rw [done] at also
        cases also
      · rw [done] at also
        cases also

theorem agrees_empty : Repository.empty.Agrees where
  claims _ _ held := absurd held.symm (Option.some_ne_none _)
  conflicts _ _ held := absurd held.symm (Option.some_ne_none _)

/-- After every run of operations in order the current statuses are at the end of their
histories, and a further operation keeps them there if and only if it is in order. -/
theorem projection_agrees {operations : List Operation} {r : Repository}
    (run : Run (fun r operation t => perform r operation = t ∧ operation.InOrder r) Repository.empty
      operations r) :
    r.Agrees ∧ ∀ operation : Operation, (perform r operation).Agrees ↔ operation.InOrder r := by
  have agrees : r.Agrees := by
    refine run.preserves Repository.Agrees ?_ agrees_empty
    rintro before operation after agrees ⟨rfl, order⟩
    exact (agrees.perform_iff operation).mpr order
  exact ⟨agrees, agrees.perform_iff⟩

/-- The operation records its claim event, if any, after the cutoff. -/
def Operation.After (cutoff : Moment) (operation : Operation) : Prop :=
  ∀ event, operation.ClaimEvent event → cutoff < event.recordedAt

/-- An operation that goes through puts no event again that was recorded by the cutoff, unless
the claim had the same status without it. -/
def Operation.Reveals (r : Repository) (claimId : String) (cutoff : Moment) (operation : Operation) :
    Prop :=
  ∀ t, attempt r operation = .ok t → ∀ event, operation.ClaimEvent event →
    lifecycle.Reveals claimId cutoff.isoformat r.claimEvents event

theorem claimStatusAt_strict (r : Repository) (claimId : String) (cutoff : Moment) :
    r.claimStatusAt claimId cutoff true =
      lifecycle.statusKnownBy claimId cutoff.isoformat r.claimEvents :=
  if_pos rfl

theorem attempt_strict_iff {r t : Repository} {operation : Operation} {cutoff : Moment}
    (claimId : String) (later : operation.After cutoff) (done : attempt r operation = .ok t) :
    t.claimStatusAt claimId cutoff true = r.claimStatusAt claimId cutoff true ↔
      operation.Reveals r claimId cutoff := by
  rw [claimStatusAt_strict, claimStatusAt_strict]
  have unchanged : SameClaims r t → (∀ other, ¬operation.ClaimEvent other) →
      (lifecycle.statusKnownBy claimId cutoff.isoformat t.claimEvents =
        lifecycle.statusKnownBy claimId cutoff.isoformat r.claimEvents ↔
          operation.Reveals r claimId cutoff) := by
    intro same none
    rw [same.events]
    exact iff_of_true rfl fun _ _ other also => absurd also (none other)
  cases attempt_writes done with
  | claim event own puts same none =>
      have order : lifecycle.statusKnownBy claimId cutoff.isoformat t.claimEvents =
          lifecycle.statusKnownBy claimId cutoff.isoformat r.claimEvents ↔
            lifecycle.Reveals claimId cutoff.isoformat r.claimEvents event := by
        rw [puts.events]
        exact statusKnownBy_put_iff (isoformat_lt_iff.mpr (later event own))
      rw [order]
      constructor
      · intro reveals _ _ other also
        rw [claimEvent_unique own also]
        exact reveals
      · intro reveals
        exact reveals t done event own
  | conflict event own puts same none => exact unchanged same none
  | neither claims conflicts noClaim noConflict => exact unchanged claims noClaim

/-- An operation after the cutoff keeps what was known by it exactly when it hides nothing. -/
theorem strict_iff {r : Repository} {operation : Operation} {cutoff : Moment} (claimId : String)
    (later : operation.After cutoff) :
    (perform r operation).claimStatusAt claimId cutoff true = r.claimStatusAt claimId cutoff true ↔
      operation.Reveals r claimId cutoff := by
  unfold perform
  cases done : attempt r operation with
  | ok t => exact attempt_strict_iff claimId later done
  | error exn =>
      refine iff_of_true rfl fun t also => ?_
      rw [done] at also
      cases also

/-- Operations after the cutoff that hide nothing leave the status known by it as it was, and
so does one more if and only if it hides nothing. -/
theorem strict_status_immutable {operations : List Operation} {r t : Repository} {claimId : String}
    {cutoff : Moment}
    (run : Run (fun r operation t => perform r operation = t ∧ operation.After cutoff ∧
      operation.Reveals r claimId cutoff) r operations t) :
    t.claimStatusAt claimId cutoff true = r.claimStatusAt claimId cutoff true ∧
    ∀ operation : Operation, operation.After cutoff →
      ((perform t operation).claimStatusAt claimId cutoff true = r.claimStatusAt claimId cutoff true ↔
        operation.Reveals t claimId cutoff) := by
  have same : t.claimStatusAt claimId cutoff true = r.claimStatusAt claimId cutoff true := by
    refine run.preserves
      (fun s => s.claimStatusAt claimId cutoff true = r.claimStatusAt claimId cutoff true) ?_ rfl
    rintro before operation after same ⟨rfl, later, reveals⟩
    exact ((strict_iff claimId later).mpr reveals).trans same
  refine ⟨same, fun operation later => ?_⟩
  rw [← same]
  exact strict_iff claimId later

def sampleMoment (micros : Fin 4) : Moment := ⟨micros.val, Nat.lt_of_lt_of_le micros.isLt (by decide)⟩

theorem sampleMoment_lt {a b : Fin 4} (lt : a < b) : sampleMoment a < sampleMoment b := lt

/-- A claim with one source and one span. -/
def sampleItem (recordedAt : Moment) : ClaimPersistenceInput where
  proposal := ⟨"uses", none, some (.str "zk-proofs"), some "string", "positive", "asserted"⟩
  subjectEntityId := "entity-1"
  objectEntityId := none
  predicateSchemaVersion := "predicate-v1"
  sourceEvidenceIds := ["source-1"]
  spanIds := ["span-1"]
  effectiveAt := sampleMoment 0
  recordedAt := recordedAt
  processingRunId := "run-1"
  validFrom := none
  validTo := none
  scope := ""
  required := by decide
  object := fun present => absurd rfl present
  sources := nofun
  spans := nofun

def sampleClaimId : String := claimId (sampleItem (sampleMoment 0))

def sampleLink (kind targetName target : String) : Link where
  linkId := identity kind (Canonical.mapping [("claim_id", .str sampleClaimId),
    (targetName, .str target), ("position", Canonical.int 0)])
  ownerId := sampleClaimId
  targetId := target
  position := 0

def sampleSourceLink : Link := sampleLink "evidence-claim-source-link" "source_evidence_id" "source-1"

def sampleSpanLink : Link := sampleLink "evidence-claim-span-link" "span_id" "span-1"

def sampleRow : KnowledgeClaim := ⟨sampleClaimId, "entity-1", "uses", "", .active, none, none⟩

/-- The repository with the claim persisted. -/
def samplePersisted (r : Repository) (recordedAt : Moment) : Repository :=
  { r with
    claims := r.claims.set sampleClaimId sampleRow
    claimEvents := lifecycle.put (acceptedEvent (sampleItem recordedAt)) r.claimEvents
    claimSourceLinks := [sampleSourceLink]
    claimSpanLinks := [sampleSpanLink] }

theorem upsertLinks_one {table : String} {rows : List Link} {row : Link}
    (only : ∀ other ∈ rows, other = row) : upsertLinks table rows [row] = .ok [row] := by
  have none : rows.filter (fun other => other.linkId ≠ row.linkId) = [] := by
    refine List.filter_eq_nil_iff.mpr fun other there different => ?_
    exact of_decide_eq_true different (congrArg Link.linkId (only other there))
  have one : upsertLink table rows row = .ok [row] := by
    rw [upsertLink, none, require_of fun other there => absurd there List.not_mem_nil]
    rfl
  unfold upsertLinks
  rw [List.foldlM_cons, one]
  rfl

theorem blank_identity {kind : String} {payload : Json} {c : Char} {rest : List Char}
    (start : kind.toList = c :: rest) (visible : Chars.isSpace c = false) :
    blank (identity kind payload) = false := by
  have first : (identity kind payload).toList.head? = some c := identity_head start
  have member : c ∈ (identity kind payload).scalars := by
    rw [String.scalars_eq_toList]
    exact List.mem_of_mem_head? first
  exact List.isEmpty_eq_false_iff.mpr (Chars.strip_ne_nil_of_mem member visible)

theorem missing_eq_none {κ σ : Type} {event : LifecycleEvent κ σ} {ownerName : String}
    (texts : ∀ text ∈ [event.eventId, event.ownerId, event.sourceEvidenceId, event.reason,
      event.processingRunId, event.schemaVersion], blank text = false) :
    event.missing ownerName = none := by
  unfold LifecycleEvent.missing
  rw [List.find?_eq_none.mpr]
  · rfl
  · intro pair there
    refine Bool.eq_false_iff.mp (texts pair.2 ?_)
    simp only [List.mem_cons, List.not_mem_nil, or_false] at there ⊢
    rcases there with rfl | rfl | rfl | rfl | rfl | rfl <;> simp

theorem sample_checked (recordedAt : Moment) :
    (acceptedEvent (sampleItem recordedAt)).missing "claim_id" = none := by
  have event : blank (acceptedEventId (sampleItem recordedAt)) = false :=
    blank_identity rfl (by decide)
  have claim : blank (claimId (sampleItem recordedAt)) = false := blank_identity rfl (by decide)
  have texts : ∀ text ∈ ["source-1", "validated extraction persisted as canonical knowledge claim",
      "run-1", "claim-lifecycle-event-v1"], blank text = false := by decide
  exact missing_eq_none (List.forall_mem_cons.mpr ⟨event, List.forall_mem_cons.mpr ⟨claim, texts⟩⟩)

theorem sample_persist {r : Repository} (recordedAt : Moment)
    (sources : ∀ row ∈ r.claimSourceLinks, row = sampleSourceLink)
    (spans : ∀ row ∈ r.claimSpanLinks, row = sampleSpanLink) :
    attempt r (.persistClaim (sampleItem recordedAt)) = .ok (samplePersisted r recordedAt) := by
  have made : knowledgeClaim (sampleItem recordedAt) = .ok sampleRow := rfl
  have event : lifecycleEvent "claim_id" (acceptedEvent (sampleItem recordedAt)) =
      .ok ⟨_, sample_checked recordedAt⟩ := by
    unfold lifecycleEvent
    split
    · rfl
    · rename_i name missing
      rw [sample_checked] at missing
      cases missing
  have sourceLinks : linksTo "evidence-claim-source-link" "claim_id" "source_evidence_id"
      sampleRow.claimId ["source-1"] = .ok [sampleSourceLink] := rfl
  have spanLinks : linksTo "evidence-claim-span-link" "claim_id" "span_id" sampleRow.claimId
      ["span-1"] = .ok [sampleSpanLink] := rfl
  show (knowledgeClaim _ >>= _) = _
  rw [made, ok_bind, event, ok_bind]
  show (linksTo _ _ _ _ ["source-1"] >>= _) = _
  rw [sourceLinks, ok_bind]
  show (linksTo _ _ _ _ ["span-1"] >>= _) = _
  rw [spanLinks, ok_bind, Repository.saveClaimWithLifecycle, upsertLinks_one sources, ok_bind,
    upsertLinks_one spans]
  rfl

def sampleRetraction : ClaimLifecycleEvent where
  val := {
    eventId := "retract-1"
    ownerId := sampleClaimId
    eventType := .retracted
    effectiveAt := sampleMoment 1
    recordedAt := sampleMoment 1
    sourceEvidenceId := "source-1"
    reason := "source retracted"
    previousStatus := some .active
    newStatus := .retracted
    processingRunId := "run-1"
    schemaVersion := "claim-lifecycle-event-v1" }
  property := by
    have claim : blank sampleClaimId = false := blank_identity rfl (by decide)
    have texts : ∀ text ∈ ["source-1", "source retracted", "run-1", "claim-lifecycle-event-v1"],
        blank text = false := by decide
    exact missing_eq_none (List.forall_mem_cons.mpr
      ⟨by decide, List.forall_mem_cons.mpr ⟨claim, texts⟩⟩)

def sampleAccepted : LifecycleEvent ClaimLifecycleEventType ClaimStatus :=
  acceptedEvent (sampleItem (sampleMoment 0))

theorem sample_eventId_ne : sampleAccepted.eventId ≠ sampleRetraction.val.eventId := by
  intro same
  have first : sampleAccepted.eventId.toList.head? = some 'e' := identity_head rfl
  rw [same] at first
  exact absurd first (by decide)

theorem sample_key_lt : lifecycle.key sampleAccepted < lifecycle.key sampleRetraction.val :=
  Prod.Lex.toLex_lt_toLex.mpr (Or.inl (isoformat_lt_iff.mpr (sampleMoment_lt (by decide))))

theorem sample_others : lifecycle.others sampleRetraction.val [sampleAccepted] = [sampleAccepted] :=
  List.filter_eq_self.mpr fun other there => by
    rw [List.mem_singleton.mp there]
    exact decide_eq_true sample_eventId_ne

/-- The claim is persisted, then retracted. -/
theorem sample_retracted : ∃ r, Run (fun r operation t => perform r operation = t ∧
      operation.InOrder r) Repository.empty
      [.persistClaim (sampleItem (sampleMoment 0)), .appendClaimEvent sampleRetraction] r ∧
    r.claimEvents = [sampleAccepted, sampleRetraction.val] ∧
    (∀ row ∈ r.claimSourceLinks, row = sampleSourceLink) ∧
    (∀ row ∈ r.claimSpanLinks, row = sampleSpanLink) := by
  have persist := sample_persist (r := Repository.empty) (sampleMoment 0)
    (fun _ there => absurd there List.not_mem_nil) fun _ there => absurd there List.not_mem_nil
  have held : (samplePersisted Repository.empty (sampleMoment 0)).claims.get? sampleClaimId =
      some sampleRow := (Dict.get?_set ..).trans (if_pos rfl)
  have retract : ∃ r, attempt (samplePersisted Repository.empty (sampleMoment 0))
      (.appendClaimEvent sampleRetraction) = .ok r ∧
      r.claimEvents = lifecycle.put sampleRetraction.val [sampleAccepted] ∧
      r.claimSourceLinks = [sampleSourceLink] ∧ r.claimSpanLinks = [sampleSpanLink] := by
    simp only [attempt, ClaimPersistenceService.appendLifecycleEvent,
      Repository.appendClaimLifecycleEvent]
    rw [show (samplePersisted Repository.empty (sampleMoment 0)).claims.get?
      sampleRetraction.val.ownerId = _ from held]
    exact ⟨_, rfl, rfl, rfl, rfl⟩
  obtain ⟨r, retract, events, sources, spans⟩ := retract
  have first : (Operation.persistClaim (sampleItem (sampleMoment 0))).InOrder Repository.empty := by
    refine ⟨fun _ _ event own => ?_, fun _ _ event own => own.elim⟩
    refine ⟨fun last found => ?_, fun old there => absurd there List.not_mem_nil⟩
    exact absurd found.symm (Option.some_ne_none last)
  have second : (Operation.appendClaimEvent sampleRetraction).InOrder
      (samplePersisted Repository.empty (sampleMoment 0)) := by
    refine ⟨fun _ _ event own => ?_, fun _ _ event own => own.elim⟩
    cases own
    constructor
    · intro last found later
      rw [show (samplePersisted Repository.empty (sampleMoment 0)).claimEvents = [sampleAccepted]
        from rfl, sample_others] at found
      have only := List.mem_of_mem_filter (List.argmax_mem found)
      rw [List.mem_singleton.mp only] at later
      exact absurd sample_key_lt later
    · intro old there same
      rw [List.mem_singleton.mp there] at same
      exact absurd same sample_eventId_ne
  refine ⟨r, Run.cons ⟨?_, first⟩ (Run.cons ⟨?_, second⟩ Run.nil), ?_, ?_, ?_⟩
  · rw [perform, persist]
  · rw [perform, retract]
  · rw [events, Fields.put, sample_others]
    rfl
  · exact fun row there => List.mem_singleton.mp (sources ▸ there)
  · exact fun row there => List.mem_singleton.mp (spans ▸ there)

theorem projection_agrees_sample : ∃ r : Repository,
    r.claimEvents = [sampleAccepted, sampleRetraction.val] ∧ r.Agrees := by
  obtain ⟨r, run, events, -⟩ := sample_retracted
  exact ⟨r, events, (projection_agrees run).1⟩

/-- Persisting the retracted claim again makes it active, with the retraction still the last
event of its history. -/
theorem projection_agrees_fails : ∃ operations r,
    Run (fun r operation t => perform r operation = t) Repository.empty operations r ∧ ¬r.Agrees := by
  obtain ⟨r, run, events, sources, spans⟩ := sample_retracted
  refine ⟨_, _, (run.imp fun _ _ _ step => step.1).snoc
    (rfl : perform r (.persistClaim (sampleItem (sampleMoment 0))) = _), fun agrees => ?_⟩
  have agreed : r.Agrees := run.preserves Repository.Agrees (by
    rintro before operation after agrees ⟨rfl, order⟩
    exact (agrees.perform_iff operation).mpr order) agrees_empty
  have order := ((agreed.perform_iff _).mp agrees).claim _
    (sample_persist (sampleMoment 0) sources spans) sampleAccepted rfl
  rw [events] at order
  have rest : lifecycle.others sampleAccepted [sampleAccepted, sampleRetraction.val] =
      [sampleRetraction.val] := by
    unfold Fields.others
    rw [List.filter_cons_of_neg (by exact fun different => of_decide_eq_true different rfl),
      List.filter_cons_of_pos (by exact decide_eq_true sample_eventId_ne.symm)]
    rfl
  have newest := order.newest sampleRetraction.val (by
    rw [rest]
    have own : lifecycle.ofOwner (lifecycle.owner sampleAccepted) [sampleRetraction.val] =
        [sampleRetraction.val] := List.filter_eq_self.mpr fun other there => by
      rw [List.mem_singleton.mp there]
      exact decide_eq_true rfl
    rw [own]
    rfl) (lt_asymm sample_key_lt)
  exact absurd newest (by decide)

def sampleStored : Repository := samplePersisted Repository.empty (sampleMoment 0)

theorem sample_stored : perform Repository.empty (.persistClaim (sampleItem (sampleMoment 0))) =
    sampleStored := by
  have persist := sample_persist (r := Repository.empty) (sampleMoment 0)
    (fun _ there => absurd there List.not_mem_nil) fun _ there => absurd there List.not_mem_nil
  rw [perform, persist]
  rfl

theorem sample_known : lifecycle.knownBy sampleClaimId (sampleMoment 0).isoformat
    sampleStored.claimEvents = [sampleAccepted] :=
  List.filter_eq_self.mpr fun other there => by
    rw [List.mem_singleton.mp there]
    exact decide_eq_true ⟨rfl, le_refl _, le_refl _⟩

theorem strict_status_immutable_sample : ∃ t : Repository,
    sampleRetraction.val ∈ t.claimEvents ∧
    t.claimStatusAt sampleClaimId (sampleMoment 0) true =
      sampleStored.claimStatusAt sampleClaimId (sampleMoment 0) true := by
  have later : (Operation.appendClaimEvent sampleRetraction).After (sampleMoment 0) := by
    intro event own
    cases own
    exact sampleMoment_lt (by decide)
  have reveals : (Operation.appendClaimEvent sampleRetraction).Reveals sampleStored sampleClaimId
      (sampleMoment 0) := by
    intro _ _ event own old there same
    cases own
    rw [sample_known] at there
    rw [List.mem_singleton.mp there] at same
    exact absurd same sample_eventId_ne
  have put : sampleRetraction.val ∈
      (perform sampleStored (.appendClaimEvent sampleRetraction)).claimEvents := by
    have held : sampleStored.claims.get? sampleRetraction.val.ownerId = some sampleRow :=
      (Dict.get?_set ..).trans (if_pos rfl)
    simp only [perform, attempt, ClaimPersistenceService.appendLifecycleEvent,
      Repository.appendClaimLifecycleEvent, held]
    exact List.mem_append_right _ (List.mem_singleton_self _)
  exact ⟨_, put, (strict_status_immutable (Run.cons ⟨rfl, later, reveals⟩ Run.nil)).1⟩

/-- Persisting the claim again moves its accepted event past the cutoff. -/
theorem strict_status_immutable_fails : ∃ operations r operation,
    Run (fun r operation t => perform r operation = t) Repository.empty operations r ∧
    Operation.After (sampleMoment 0) operation ∧
    (perform r operation).claimStatusAt sampleClaimId (sampleMoment 0) true ≠
      r.claimStatusAt sampleClaimId (sampleMoment 0) true := by
  have later : (Operation.persistClaim (sampleItem (sampleMoment 1))).After (sampleMoment 0) := by
    intro event own
    cases own
    exact sampleMoment_lt (by decide)
  refine ⟨_, sampleStored, .persistClaim (sampleItem (sampleMoment 1)),
    Run.cons sample_stored Run.nil, later, fun same => ?_⟩
  have reveals := (strict_iff sampleClaimId later).mp same
  have persist := sample_persist (r := sampleStored) (sampleMoment 1)
    (fun _ there => List.mem_singleton.mp there) fun _ there => List.mem_singleton.mp there
  have hidden := reveals _ persist _ rfl sampleAccepted (by
    rw [sample_known]
    exact List.mem_singleton_self _) rfl
  rw [Fields.statusKnownBy, sample_known] at hidden
  have none : lifecycle.others (acceptedEvent (sampleItem (sampleMoment 1))) [sampleAccepted] = [] :=
    List.filter_eq_nil_iff.mpr fun other there different => by
      rw [List.mem_singleton.mp there] at different
      exact of_decide_eq_true different rfl
  rw [none] at hidden
  exact absurd hidden (by rintro ⟨⟩)

end Hunter.EvidenceIntelligence
