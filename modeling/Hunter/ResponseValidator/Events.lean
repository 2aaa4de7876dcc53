import Hunter.Data.Lineage
import Hunter.Machine.Run
import Hunter.ResponseValidator.Vocabulary

/-!
Validation events: the allocation of a base event for a base key, of the event that
follows a given one, and the reservation of a transient capture for one event. Each
call is one transaction on two insert-only tables, so callers in any number are a
sequence of calls, each with its own reading of the clock.
-/

namespace Hunter.ResponseValidator

open Calendar Fallible

def baseValidationPurpose : String := "BASE_RESPONSE_VALIDATION"

/-- Stable base-event key. The purpose is closed. -/
structure BaseValidationKey where
  responseCaptureIdentity : CanonicalText
  requestedOutputContractIdentity : CanonicalText
  requestedOutputContractVersion : CanonicalText
  requestedProfileSelector : CanonicalText
  schemaVersion : CanonicalText
  deriving DecidableEq

namespace BaseValidationKey

def json (key : BaseValidationKey) : Json := .obj [
  ("response_capture_identity", .str key.responseCaptureIdentity.val),
  ("requested_output_contract_identity", .str key.requestedOutputContractIdentity.val),
  ("requested_output_contract_version", .str key.requestedOutputContractVersion.val),
  ("requested_profile_selector", .str key.requestedProfileSelector.val),
  ("purpose", .str baseValidationPurpose),
  ("schema_version", .str key.schemaVersion.val)]

def baseValidationKeyId (key : BaseValidationKey) : String := identity "base-validation-key" key.json

end BaseValidationKey

def allocationSchemaVersion : String := "validation-event-allocation-v1"

/-- Canonical event identity and cutoff. A base event has no predecessor, every other
one has. -/
structure ValidationEventAllocation where
  baseValidationKey : BaseValidationKey
  validationCutoff : Moment
  revalidationGeneration : Nat
  predecessorValidationEventId : Option String
  base : revalidationGeneration = 0 → predecessorValidationEventId = none
  revalidation : 0 < revalidationGeneration → ∃ id ∈ predecessorValidationEventId, id ≠ ""
  deriving DecidableEq

namespace ValidationEventAllocation

def validationEventId (allocation : ValidationEventAllocation) : String :=
  identity "response-validation-event" (.obj [
    ("base_validation_key_id", .str allocation.baseValidationKey.baseValidationKeyId),
    ("validation_cutoff", .str allocation.validationCutoff.isoformat),
    ("revalidation_generation", .int allocation.revalidationGeneration),
    ("predecessor_validation_event_id", optionalText allocation.predecessorValidationEventId),
    ("schema_version", .str allocationSchemaVersion)])

/-- The key that the unique indexes of the table see. -/
def keyId (allocation : ValidationEventAllocation) : String :=
  allocation.baseValidationKey.baseValidationKeyId

end ValidationEventAllocation

/-- The canonical bytes of a stored allocation. -/
def allocationPayload (allocation : ValidationEventAllocation) : String :=
  (Json.obj [
    ("base_validation_key", allocation.baseValidationKey.json),
    ("validation_cutoff", .str allocation.validationCutoff.isoformat),
    ("revalidation_generation", .int allocation.revalidationGeneration),
    ("predecessor_validation_event_id", optionalText allocation.predecessorValidationEventId),
    ("schema_version", .str allocationSchemaVersion),
    ("validation_event_id", .str allocation.validationEventId),
    ("base_validation_key_id", .str allocation.keyId)]).dumps

/-- A row with its indexed columns. The payload column is the record it encodes. -/
structure AllocationRow where
  validationEventId : String
  baseValidationKeyId : String
  revalidationGeneration : Nat
  predecessorValidationEventId : Option String
  validationCutoff : String
  payloadHash : String
  payload : ValidationEventAllocation

def AllocationRow.of (allocation : ValidationEventAllocation) : AllocationRow where
  validationEventId := allocation.validationEventId
  baseValidationKeyId := allocation.keyId
  revalidationGeneration := allocation.revalidationGeneration
  predecessorValidationEventId := allocation.predecessorValidationEventId
  validationCutoff := allocation.validationCutoff.isoformat
  payloadHash := sha256 (allocationPayload allocation)
  payload := allocation

def allocationFromRow (row : AllocationRow) : Py ValidationEventAllocation := do
  let allocation := row.payload
  require (sha256 (allocationPayload allocation) = row.payloadHash)
    (.persistenceCorruption "validation allocation payload hash mismatch")
  let mismatch (name : String) : Exn := .persistenceCorruption
    ("validation allocation SQL metadata does not match canonical payload: " ++ name)
  require (row.validationEventId = allocation.validationEventId) (mismatch "validation_event_id")
  require (row.baseValidationKeyId = allocation.keyId) (mismatch "base_validation_key_id")
  require (row.revalidationGeneration = allocation.revalidationGeneration)
    (mismatch "revalidation_generation")
  require (row.predecessorValidationEventId = allocation.predecessorValidationEventId)
    (mismatch "predecessor_validation_event_id")
  require (row.validationCutoff = allocation.validationCutoff.isoformat)
    (mismatch "validation_cutoff")
  .ok allocation

structure EventTables where
  allocations : List AllocationRow
  /-- Capture identities and the validation events that own them. -/
  reservations : List (String × String)

/-- The unique keys of the allocations: the identity, the generation of a base key,
and the predecessor where there is one. -/
def AllocationRow.clashes (row other : AllocationRow) : Bool :=
  row.validationEventId = other.validationEventId ||
    (row.baseValidationKeyId = other.baseValidationKeyId &&
      row.revalidationGeneration = other.revalidationGeneration) ||
    (row.predecessorValidationEventId.isSome &&
      row.predecessorValidationEventId = other.predecessorValidationEventId)

/-- The foreign key of the predecessor. -/
def AllocationRow.references (row : AllocationRow) (allocations : List AllocationRow) : Bool :=
  match row.predecessorValidationEventId with
  | none => true
  | some predecessor => allocations.any fun other => other.validationEventId = predecessor

def insertAllocation (tables : EventTables) (allocation : ValidationEventAllocation) :
    Py EventTables := do
  let row := AllocationRow.of allocation
  require ((tables.allocations.all fun other => !row.clashes other) ∧
      row.references tables.allocations)
    (.persistenceConflict "canonical validation-event allocation conflict")
  .ok { tables with allocations := tables.allocations ++ [row] }

def baseAllocation (key : BaseValidationKey) (cutoff : Moment) : ValidationEventAllocation where
  baseValidationKey := key
  validationCutoff := cutoff
  revalidationGeneration := 0
  predecessorValidationEventId := none
  base := fun _ => rfl
  revalidation := fun positive => absurd positive (Nat.lt_irrefl 0)

def allocateBaseValidation (now : ClockReading) (tables : EventTables) (key : BaseValidationKey) :
    Py (ValidationEventAllocation × EventTables) := do
  match tables.allocations.find? fun row =>
      row.baseValidationKeyId = key.baseValidationKeyId ∧ row.revalidationGeneration = 0 with
  | some existing => do
      let allocation ← allocationFromRow existing
      require (allocation.baseValidationKey = key)
        (.persistenceCorruption "base-validation key identity has conflicting bytes")
      .ok (allocation, tables)
  | none => do
      let cutoff ← clockNow now "validation allocation"
      let allocation := baseAllocation key cutoff
      let tables ← insertAllocation tables allocation
      .ok (allocation, tables)

def nextAllocation (predecessor : ValidationEventAllocation) (cutoff : Moment) :
    ValidationEventAllocation where
  baseValidationKey := predecessor.baseValidationKey
  validationCutoff := cutoff
  revalidationGeneration := predecessor.revalidationGeneration + 1
  predecessorValidationEventId := some predecessor.validationEventId
  base := fun zero => absurd zero (Nat.succ_ne_zero _)
  revalidation := fun _ => ⟨_, rfl, identity_ne _ _⟩

def allocateRevalidation (now : ClockReading) (tables : EventTables)
    (predecessorValidationEventId : String) : Py (ValidationEventAllocation × EventTables) := do
  let predecessorId ← requiredText "predecessor_validation_event_id" predecessorValidationEventId
  match tables.allocations.find? fun row => row.validationEventId = predecessorId.val with
  | none => .error (.allocationError "re-validation predecessor is unknown")
  | some row => do
      let predecessor ← allocationFromRow row
      match tables.allocations.find? fun row =>
          row.predecessorValidationEventId = some predecessorId.val with
      | some existing => do
          let allocation ← allocationFromRow existing
          .ok (allocation, tables)
      | none => do
          let cutoff ← clockNow now "re-validation allocation"
          require (¬ cutoff ≤ predecessor.validationCutoff)
            (.allocationError "re-validation cutoff must advance beyond predecessor")
          let allocation := nextAllocation predecessor cutoff
          let tables ← insertAllocation tables allocation
          .ok (allocation, tables)

/-- `ORDER BY revalidation_generation, validation_event_id`. -/
def AllocationRow.before (a b : AllocationRow) : Bool :=
  a.revalidationGeneration < b.revalidationGeneration ||
    (a.revalidationGeneration = b.revalidationGeneration &&
      a.validationEventId ≤ b.validationEventId)

def validationEvents (tables : EventTables) (keyId : String) : Py (List ValidationEventAllocation) :=
  ((tables.allocations.filter fun row => row.baseValidationKeyId = keyId).mergeSort
    AllocationRow.before).mapM allocationFromRow

/-- Whether the capture belongs to the event after the call. -/
def reserveTransientCapture (tables : EventTables)
    (responseCaptureIdentity validationEventId : String) : Py (Bool × EventTables) := do
  require (responseCaptureIdentity ≠ "" ∧ validationEventId ≠ "")
    (.persistenceConflict "transient capture reservation requires canonical non-blank identities")
  match tables.reservations.lookup responseCaptureIdentity with
  | some owner => .ok (decide (owner = validationEventId), tables)
  | none => do
      -- the foreign key of the event
      require (tables.allocations.any fun row => row.validationEventId = validationEventId)
        (.persistenceConflict "transient capture reservation identity conflict")
      .ok (true, { tables with
        reservations := tables.reservations ++ [(responseCaptureIdentity, validationEventId)] })

def transientCaptureOwner (tables : EventTables) (responseCaptureIdentity : String) :
    Option String :=
  tables.reservations.lookup responseCaptureIdentity

theorem allocationFromRow_of (allocation : ValidationEventAllocation) :
    allocationFromRow (.of allocation) = .ok allocation := by
  simp [allocationFromRow, AllocationRow.of, require]

/-- The allocations of one base key. -/
def eventsOf (allocations : List ValidationEventAllocation) (keyId : String) :
    List ValidationEventAllocation :=
  allocations.filter fun allocation => allocation.keyId = keyId

/-- Generations without gaps, each naming the one before, with advancing cutoffs. -/
abbrev EventLine (chain : List ValidationEventAllocation) : Prop :=
  Lineage.Line ValidationEventAllocation.validationEventId
    ValidationEventAllocation.predecessorValidationEventId
    ValidationEventAllocation.revalidationGeneration
    (fun a b => a.validationCutoff < b.validationCutoff) none 0 chain

/-- What holds of the allocations of reachable tables. -/
structure Chains (allocations : List ValidationEventAllocation) : Prop where
  distinct : (allocations.map ValidationEventAllocation.validationEventId).Nodup
  line : ∀ keyId, EventLine (eventsOf allocations keyId)
  same_key : ∀ a ∈ allocations, ∀ b ∈ allocations, a.keyId = b.keyId →
    a.baseValidationKey = b.baseValidationKey

theorem mem_eventsOf {allocations : List ValidationEventAllocation} {keyId : String}
    {a : ValidationEventAllocation} : a ∈ eventsOf allocations keyId ↔ a ∈ allocations ∧ a.keyId = keyId := by
  simp [eventsOf]

theorem Chains.distinct_of {allocations : List ValidationEventAllocation} (h : Chains allocations)
    (keyId : String) :
    ((eventsOf allocations keyId).map ValidationEventAllocation.validationEventId).Nodup :=
  h.distinct.sublist (List.filter_sublist.map _)

/-- One allocation of each generation of a key. -/
theorem Chains.eq_of_generation {allocations : List ValidationEventAllocation} (h : Chains allocations)
    {a b : ValidationEventAllocation} (ha : a ∈ allocations) (hb : b ∈ allocations)
    (key : a.keyId = b.keyId) (generation : a.revalidationGeneration = b.revalidationGeneration) :
    a = b :=
  (h.line b.keyId).eq_of_number (mem_eventsOf.mpr ⟨ha, key⟩) (mem_eventsOf.mpr ⟨hb, rfl⟩) generation

/-- A predecessor is an allocation of the same key, one generation before. -/
theorem Chains.predecessor {allocations : List ValidationEventAllocation} (h : Chains allocations)
    {a : ValidationEventAllocation} {predecessorId : String} (ha : a ∈ allocations)
    (names : a.predecessorValidationEventId = some predecessorId) :
    ∃ p ∈ allocations, p.validationEventId = predecessorId ∧ p.keyId = a.keyId ∧
      a.revalidationGeneration = p.revalidationGeneration + 1 := by
  have inside : a ∈ eventsOf allocations a.keyId := mem_eventsOf.mpr ⟨ha, rfl⟩
  rcases (h.line a.keyId).linked.parent_mem inside with none | ⟨p, member, same⟩
  · rw [names] at none
    cases none
  · have number := (h.line a.keyId).number_of_parent (h.distinct_of a.keyId) inside member same
    rw [names] at same
    obtain ⟨listed, key⟩ := mem_eventsOf.mp member
    exact ⟨p, listed, (Option.some.inj same).symm, key, number⟩

/-- One allocation for each predecessor. -/
theorem Chains.eq_of_predecessor {allocations : List ValidationEventAllocation}
    (h : Chains allocations) {a b : ValidationEventAllocation} {predecessorId : String}
    (ha : a ∈ allocations) (hb : b ∈ allocations)
    (a_names : a.predecessorValidationEventId = some predecessorId)
    (b_names : b.predecessorValidationEventId = some predecessorId) : a = b := by
  obtain ⟨p, p_in, p_id, p_key, p_generation⟩ := h.predecessor ha a_names
  obtain ⟨q, q_in, q_id, q_key, q_generation⟩ := h.predecessor hb b_names
  have same : p = q := List.inj_on_of_nodup_map h.distinct p_in q_in (p_id.trans q_id.symm)
  subst same
  refine h.eq_of_generation ha hb (p_key.symm.trans q_key) ?_
  rw [p_generation, q_generation]

theorem eventsOf_append (allocations : List ValidationEventAllocation)
    (a : ValidationEventAllocation) (keyId : String) :
    eventsOf (allocations ++ [a]) keyId =
      eventsOf allocations keyId ++ if a.keyId = keyId then [a] else [] := by
  rw [eventsOf, List.filter_append, List.filter_singleton]
  simp [eventsOf]

/-- An allocation that extends the chain of its key. -/
theorem Chains.append {allocations : List ValidationEventAllocation} (h : Chains allocations)
    {a : ValidationEventAllocation}
    (fresh : a.validationEventId ∉ allocations.map ValidationEventAllocation.validationEventId)
    (line : EventLine (eventsOf allocations a.keyId ++ [a]))
    (key : ∀ b ∈ allocations, b.keyId = a.keyId → b.baseValidationKey = a.baseValidationKey) :
    Chains (allocations ++ [a]) := by
  refine ⟨?_, fun keyId => ?_, ?_⟩
  · rw [List.map_append]
    refine List.nodup_append.mpr ⟨h.distinct, List.nodup_singleton _, ?_⟩
    intro id member other single same
    rw [List.mem_singleton.mp single] at same
    exact fresh (same ▸ member)
  · rw [eventsOf_append]
    by_cases own : a.keyId = keyId
    · rw [if_pos own, ← own]
      exact line
    · rw [if_neg own, List.append_nil]
      exact h.line keyId
  · intro b b_in c c_in same
    rcases List.mem_append.mp b_in with b_old | b_new <;>
      rcases List.mem_append.mp c_in with c_old | c_new
    · exact h.same_key b b_old c c_old same
    · cases List.mem_singleton.mp c_new
      exact key b b_old same
    · cases List.mem_singleton.mp b_new
      exact (key c c_old same.symm).symm
    · cases List.mem_singleton.mp b_new
      cases List.mem_singleton.mp c_new
      rfl

theorem validationEventId_canonical (allocation : ValidationEventAllocation) :
    allocation.validationEventId ≠ "" ∧
      Chars.strip allocation.validationEventId.scalars = allocation.validationEventId.scalars :=
  (identityText "response-validation-event" _ (String.forall_scalars_of_all (by decide))).property

/-- Tables that hold the rows of chains, with one reservation for a capture. -/
structure Kept (allocations : List ValidationEventAllocation) (tables : EventTables) : Prop where
  rows : tables.allocations = allocations.map AllocationRow.of
  chains : Chains allocations
  owners : (tables.reservations.map Prod.fst).Nodup

theorem insertAllocation_ok {allocations : List ValidationEventAllocation} {tables after : EventTables}
    {a : ValidationEventAllocation} (rows : tables.allocations = allocations.map AllocationRow.of)
    (ok : insertAllocation tables a = .ok after) :
    a.validationEventId ∉ allocations.map ValidationEventAllocation.validationEventId ∧
      after = ⟨(allocations ++ [a]).map AllocationRow.of, tables.reservations⟩ := by
  rw [insertAllocation] at ok
  obtain ⟨⟨free, -⟩, done⟩ := require_bind_ok.mp ok
  cases done
  rw [rows] at free ⊢
  refine ⟨fun member => ?_, by rw [List.map_append]; rfl⟩
  obtain ⟨b, inside, same⟩ := List.mem_map.mp member
  have clash := List.all_eq_true.mp free (.of b) (List.mem_map_of_mem inside)
  simp [AllocationRow.clashes, AllocationRow.of, same] at clash

/-- The row a search finds is the row of the only allocation it accepts. -/
theorem find_row {allocations : List ValidationEventAllocation} {p : AllocationRow → Bool}
    {a : ValidationEventAllocation} (member : a ∈ allocations) (holds : p (.of a) = true)
    (only : ∀ b ∈ allocations, p (.of b) = true → b = a) :
    (allocations.map AllocationRow.of).find? p = some (.of a) := by
  rw [List.find?_map]
  have found : allocations.find? (p ∘ AllocationRow.of) = some a :=
    Lineage.find?_of_unique member holds only
  rw [found]
  rfl

/-- A base allocation that is there is returned to every caller. -/
theorem allocateBaseValidation_joins {allocations : List ValidationEventAllocation}
    {tables : EventTables} (kept : Kept allocations tables) {a : ValidationEventAllocation}
    (member : a ∈ allocations) (base : a.revalidationGeneration = 0) (now : ClockReading) :
    allocateBaseValidation now tables a.baseValidationKey = .ok (a, tables) := by
  have found : tables.allocations.find? (fun row => row.baseValidationKeyId =
      a.baseValidationKey.baseValidationKeyId ∧ row.revalidationGeneration = 0) = some (.of a) := by
    rw [kept.rows]
    refine find_row member (decide_eq_true ⟨rfl, base⟩) fun b inside accepted => ?_
    have holds := of_decide_eq_true accepted
    exact kept.chains.eq_of_generation inside member holds.1 (holds.2.trans base.symm)
  rw [allocateBaseValidation, found]
  simp only [allocationFromRow_of, ok_bind]
  rfl

/-- So is the allocation after a given one. -/
theorem allocateRevalidation_joins {allocations : List ValidationEventAllocation}
    {tables : EventTables} (kept : Kept allocations tables) {a : ValidationEventAllocation}
    {predecessorId : CanonicalText} (member : a ∈ allocations)
    (names : a.predecessorValidationEventId = some predecessorId.val) (now : ClockReading) :
    allocateRevalidation now tables predecessorId.val = .ok (a, tables) := by
  obtain ⟨p, p_in, p_id, -⟩ := kept.chains.predecessor member names
  have predecessor : tables.allocations.find? (fun row =>
      row.validationEventId = predecessorId.val) = some (.of p) := by
    rw [kept.rows]
    refine find_row p_in (decide_eq_true p_id) fun b inside accepted => ?_
    have same : b.validationEventId = predecessorId.val := of_decide_eq_true accepted
    exact List.inj_on_of_nodup_map kept.chains.distinct inside p_in (same.trans p_id.symm)
  have child : tables.allocations.find? (fun row =>
      row.predecessorValidationEventId = some predecessorId.val) = some (.of a) := by
    rw [kept.rows]
    refine find_row member (decide_eq_true names) fun b inside accepted => ?_
    exact kept.chains.eq_of_predecessor inside member (of_decide_eq_true accepted) names
  rw [allocateRevalidation, requiredText_ok.mpr rfl, ok_bind, predecessor]
  simp only [allocationFromRow_of, ok_bind]
  rw [child]
  simp only [allocationFromRow_of, ok_bind]

/-- The tables after a call: the allocations go on, and so do the reservations. -/
structure Continues (allocations : List ValidationEventAllocation) (tables : EventTables)
    (allocations' : List ValidationEventAllocation) (after : EventTables) : Prop where
  kept : Kept allocations' after
  front : allocations <+: allocations'
  owned : tables.reservations <+: after.reservations

theorem Continues.refl {allocations : List ValidationEventAllocation} {tables : EventTables}
    (kept : Kept allocations tables) : Continues allocations tables allocations tables :=
  ⟨kept, List.prefix_rfl, List.prefix_rfl⟩

/-- An insertion that extends the chain of its key. -/
theorem Kept.insert {allocations : List ValidationEventAllocation} {tables after : EventTables}
    {a : ValidationEventAllocation} (kept : Kept allocations tables)
    (ok : insertAllocation tables a = .ok after)
    (line : EventLine (eventsOf allocations a.keyId ++ [a]))
    (key : ∀ b ∈ allocations, b.keyId = a.keyId → b.baseValidationKey = a.baseValidationKey) :
    Continues allocations tables (allocations ++ [a]) after := by
  obtain ⟨fresh, rfl⟩ := insertAllocation_ok kept.rows ok
  exact ⟨⟨rfl, kept.chains.append fresh line key, kept.owners⟩, List.prefix_append _ _,
    List.prefix_rfl⟩

theorem allocateBaseValidation_ok {allocations : List ValidationEventAllocation}
    {tables after : EventTables} (kept : Kept allocations tables) {now : ClockReading}
    {key : BaseValidationKey} {a : ValidationEventAllocation}
    (ok : allocateBaseValidation now tables key = .ok (a, after)) :
    ∃ allocations', Continues allocations tables allocations' after ∧ a ∈ allocations' ∧
      a.revalidationGeneration = 0 ∧ a.baseValidationKey = key := by
  rw [allocateBaseValidation] at ok
  cases search : tables.allocations.find? (fun row =>
      row.baseValidationKeyId = key.baseValidationKeyId ∧ row.revalidationGeneration = 0) with
  | some row =>
      rw [search] at ok
      have listed := List.mem_of_find?_eq_some search
      rw [kept.rows] at listed
      obtain ⟨b, inside, rfl⟩ := List.mem_map.mp listed
      have holds := List.find?_some search
      simp only [decide_eq_true_eq] at holds
      simp only [allocationFromRow_of, ok_bind, require_bind_ok] at ok
      obtain ⟨same, done⟩ := ok
      cases done
      exact ⟨allocations, .refl kept, inside, holds.2, same⟩
  | none =>
      rw [search] at ok
      obtain ⟨cutoff, -, ok⟩ := bind_ok.mp ok
      obtain ⟨stored, inserted, done⟩ := bind_ok.mp ok
      cases done
      have absent : ∀ b ∈ allocations, b.keyId = key.baseValidationKeyId →
          b.revalidationGeneration ≠ 0 := by
        intro b inside same zero
        have none_found := List.find?_eq_none.mp search (.of b)
          (kept.rows ▸ List.mem_map_of_mem inside)
        exact none_found (decide_eq_true ⟨same, zero⟩)
      -- a chain that is not empty starts with generation 0
      have empty : eventsOf allocations key.baseValidationKeyId = [] := by
        cases chain : eventsOf allocations key.baseValidationKeyId with
        | nil => rfl
        | cons first rest =>
            have numbered := (kept.chains.line key.baseValidationKeyId).numbered
            rw [chain, List.map_cons, List.length_cons, List.range'_succ] at numbered
            have member : first ∈ eventsOf allocations key.baseValidationKeyId :=
              chain ▸ List.mem_cons_self
            obtain ⟨inside, same⟩ := mem_eventsOf.mp member
            exact absurd (List.cons.inj numbered).1 (absent first inside same)
      have line : EventLine (eventsOf allocations (baseAllocation key cutoff).keyId ++
          [baseAllocation key cutoff]) := by
        have own : (baseAllocation key cutoff).keyId = key.baseValidationKeyId := rfl
        rw [own, empty]
        exact Lineage.Line.snoc.mpr ⟨Lineage.Line.nil, rfl, rfl, by simp⟩
      refine ⟨_, kept.insert inserted line ?_, List.mem_append_right _ (List.mem_singleton_self _),
        rfl, rfl⟩
      intro b inside same
      have member : b ∈ eventsOf allocations key.baseValidationKeyId := mem_eventsOf.mpr ⟨inside, same⟩
      rw [empty] at member
      exact absurd member List.not_mem_nil

theorem allocateRevalidation_ok {allocations : List ValidationEventAllocation}
    {tables after : EventTables} (kept : Kept allocations tables) {now : ClockReading}
    {predecessorId : String} {a : ValidationEventAllocation}
    (ok : allocateRevalidation now tables predecessorId = .ok (a, after)) :
    ∃ (text : CanonicalText) (allocations' : List ValidationEventAllocation),
      text.val = predecessorId ∧ Continues allocations tables allocations' after ∧
        a ∈ allocations' ∧ a.predecessorValidationEventId = some text.val := by
  rw [allocateRevalidation] at ok
  obtain ⟨text, read, ok⟩ := bind_ok.mp ok
  have named := requiredText_ok.mp read
  cases search : tables.allocations.find? (fun row => row.validationEventId = text.val) with
  | none =>
      rw [search] at ok
      cases ok
  | some row =>
      rw [search] at ok
      have listed := List.mem_of_find?_eq_some search
      rw [kept.rows] at listed
      obtain ⟨p, p_in, rfl⟩ := List.mem_map.mp listed
      have p_id := List.find?_some search
      simp only [decide_eq_true_eq] at p_id
      simp only [allocationFromRow_of, ok_bind] at ok
      cases children : tables.allocations.find? (fun row =>
          row.predecessorValidationEventId = some text.val) with
      | some row =>
          rw [children] at ok
          have listed := List.mem_of_find?_eq_some children
          rw [kept.rows] at listed
          obtain ⟨b, inside, rfl⟩ := List.mem_map.mp listed
          have names := List.find?_some children
          simp only [decide_eq_true_eq] at names
          simp only [allocationFromRow_of, ok_bind] at ok
          cases ok
          exact ⟨text, allocations, named, .refl kept, inside, names⟩
      | none =>
          rw [children] at ok
          obtain ⟨cutoff, -, ok⟩ := bind_ok.mp ok
          obtain ⟨advanced, ok⟩ := require_bind_ok.mp ok
          obtain ⟨stored, inserted, done⟩ := bind_ok.mp ok
          cases done
          have childless : ∀ b ∈ allocations,
              b.predecessorValidationEventId ≠ some p.validationEventId := by
            intro b inside names
            have none_found := List.find?_eq_none.mp children (.of b)
              (kept.rows ▸ List.mem_map_of_mem inside)
            exact none_found (decide_eq_true (names.trans (congrArg some p_id)))
          have own : (nextAllocation p cutoff).keyId = p.keyId := rfl
          have line : EventLine (eventsOf allocations (nextAllocation p cutoff).keyId ++
              [nextAllocation p cutoff]) := by
            rw [own]
            have member : p ∈ eventsOf allocations p.keyId := mem_eventsOf.mpr ⟨p_in, rfl⟩
            have chain := kept.chains.line p.keyId
            obtain ⟨front, rest, split⟩ := List.append_of_mem member
            cases rest with
            | cons q rest =>
                have linked := chain.linked
                rw [split] at linked
                obtain ⟨b, inside, names⟩ := linked.named_of_append (List.cons_ne_nil q rest)
                have listed : b ∈ eventsOf allocations p.keyId := by
                  rw [split]
                  exact List.mem_append_right _ (List.mem_cons_of_mem p inside)
                exact absurd names (childless b (mem_eventsOf.mp listed).1)
            | nil =>
                rw [split] at chain ⊢
                obtain ⟨-, -, number, earlier⟩ := Lineage.Line.snoc.mp chain
                refine Lineage.Line.snoc.mpr ⟨chain, ?_, ?_, ?_⟩
                · rw [Lineage.tip_append_singleton]
                  rfl
                · rw [List.length_append, List.length_singleton, ← Nat.add_assoc, ← number]
                  rfl
                · intro b inside
                  have p_lt : p.validationCutoff < cutoff := Fin.not_le.mp advanced
                  rcases List.mem_append.mp inside with old | single
                  · exact (earlier b old).trans p_lt
                  · rw [List.mem_singleton.mp single]
                    exact p_lt
          refine ⟨text, _, named, kept.insert inserted line ?_,
            List.mem_append_right _ (List.mem_singleton_self _), ?_⟩
          · intro b inside same
            exact kept.chains.same_key b inside p p_in same
          · exact congrArg some p_id

theorem lookup_prefix {before after : List (String × String)} (front : before <+: after)
    {capture owner : String} (found : before.lookup capture = some owner) :
    after.lookup capture = some owner := by
  obtain ⟨more, rfl⟩ := front
  rw [List.lookup_append, found]
  rfl

/-- A capture that has an owner is answered by comparing with it. -/
theorem reserve_owned {tables : EventTables} {capture event owner : String}
    (owned : transientCaptureOwner tables capture = some owner) (capture_ne : capture ≠ "")
    (event_ne : event ≠ "") :
    reserveTransientCapture tables capture event = .ok (decide (owner = event), tables) := by
  rw [reserveTransientCapture, require_of ⟨capture_ne, event_ne⟩, ok_bind]
  rw [transientCaptureOwner] at owned
  rw [owned]

theorem reserve_ok {allocations : List ValidationEventAllocation} {tables after : EventTables}
    (kept : Kept allocations tables) {capture event : String} {told : Bool}
    (ok : reserveTransientCapture tables capture event = .ok (told, after)) :
    Continues allocations tables allocations after ∧ capture ≠ "" ∧
      ∃ owner, transientCaptureOwner after capture = some owner ∧ told = decide (owner = event) := by
  rw [reserveTransientCapture] at ok
  obtain ⟨⟨capture_ne, -⟩, ok⟩ := require_bind_ok.mp ok
  cases found : tables.reservations.lookup capture with
  | some owner =>
      rw [found] at ok
      cases ok
      exact ⟨.refl kept, capture_ne, owner, found, rfl⟩
  | none =>
      rw [found] at ok
      obtain ⟨-, done⟩ := require_bind_ok.mp ok
      cases done
      refine ⟨⟨⟨kept.rows, kept.chains, ?_⟩, List.prefix_rfl, List.prefix_append _ _⟩, capture_ne,
        event, ?_, (decide_eq_true rfl).symm⟩
      · rw [List.map_append]
        refine List.nodup_append.mpr ⟨kept.owners, List.nodup_singleton _, ?_⟩
        intro taken member other single same
        rw [List.mem_singleton.mp single] at same
        obtain ⟨pair, inside, first⟩ := List.mem_map.mp member
        have absent := List.lookup_eq_none_iff.mp found pair inside
        simp [first, same] at absent
      · rw [transientCaptureOwner, List.lookup_append, found]
        simp

/-- A call of any caller, with the reading its clock gives. -/
inductive EventCall where
  | allocateBase (now : ClockReading) (key : BaseValidationKey)
  | allocateRevalidation (now : ClockReading) (predecessorValidationEventId : String)
  | reserve (responseCaptureIdentity validationEventId : String)

/-- The tables its transaction leaves. -/
def EventCall.after (tables : EventTables) : EventCall → EventTables
  | .allocateBase now key => committed tables (allocateBaseValidation now tables key)
  | .allocateRevalidation now predecessor =>
      committed tables (Hunter.ResponseValidator.allocateRevalidation now tables predecessor)
  | .reserve capture event => committed tables (reserveTransientCapture tables capture event)

def Calls (tables : EventTables) (call : EventCall) (after : EventTables) : Prop :=
  after = call.after tables

theorem Kept.call {allocations : List ValidationEventAllocation} {tables after : EventTables}
    {call : EventCall} (kept : Kept allocations tables) (step : Calls tables call after) :
    ∃ allocations', Continues allocations tables allocations' after := by
  have same : ∃ allocations', Continues allocations tables allocations' tables :=
    ⟨allocations, .refl kept⟩
  rw [Calls] at step
  subst step
  cases call with
  | allocateBase now key =>
      refine committed_cases (P := fun after => ∃ new, Continues allocations tables new after) same ?_
      intro a after ok
      obtain ⟨new, continues, -⟩ := allocateBaseValidation_ok kept ok
      exact ⟨new, continues⟩
  | allocateRevalidation now predecessor =>
      refine committed_cases (P := fun after => ∃ new, Continues allocations tables new after) same ?_
      intro a after ok
      obtain ⟨-, new, -, continues, -⟩ := allocateRevalidation_ok kept ok
      exact ⟨new, continues⟩
  | reserve capture event =>
      refine committed_cases (P := fun after => ∃ new, Continues allocations tables new after) same ?_
      intro told after ok
      exact ⟨allocations, (reserve_ok kept ok).1⟩

theorem Kept.run {allocations : List ValidationEventAllocation} {tables after : EventTables}
    {calls : List EventCall} (kept : Kept allocations tables) (run : Run Calls tables calls after) :
    ∃ allocations', Continues allocations tables allocations' after := by
  induction run with
  | nil => exact ⟨allocations, .refl kept⟩
  | snoc _ step ih =>
      obtain ⟨middle, before⟩ := ih
      obtain ⟨final, last⟩ := before.kept.call step
      exact ⟨final, last.kept, before.front.trans last.front, before.owned.trans last.owned⟩

theorem kept_empty : Kept [] ⟨[], []⟩ :=
  ⟨rfl, ⟨List.nodup_nil, fun _ => Lineage.Line.nil, by simp⟩, List.nodup_nil⟩

theorem validationEvents_eq {allocations : List ValidationEventAllocation} {tables : EventTables}
    (kept : Kept allocations tables) (keyId : String) :
    validationEvents tables keyId = .ok (eventsOf allocations keyId) := by
  have rows : tables.allocations.filter (fun row => row.baseValidationKeyId = keyId) =
      (eventsOf allocations keyId).map AllocationRow.of := by
    rw [kept.rows, List.filter_map]
    rfl
  have sorted : ((eventsOf allocations keyId).map AllocationRow.of).Pairwise
      fun a b => AllocationRow.before a b = true := by
    rw [List.pairwise_map]
    refine (kept.chains.line keyId).increasing.imp fun {a b} less => ?_
    simp [AllocationRow.before, AllocationRow.of, less]
  rw [validationEvents, rows, List.mergeSort_of_pairwise sorted, List.mapM_map]
  have all : (eventsOf allocations keyId).mapM (fun a => allocationFromRow (.of a)) =
      .ok ((eventsOf allocations keyId).map id) :=
    mapM_ok_of_forall fun a _ => allocationFromRow_of a
  rwa [List.map_id] at all

/-- An allocation stands in the chain of its key. -/
def Listed (tables : EventTables) (a : ValidationEventAllocation) : Prop :=
  ∃ chain, validationEvents tables a.keyId = .ok chain ∧ a ∈ chain

theorem Kept.listed {allocations : List ValidationEventAllocation} {tables : EventTables}
    {a : ValidationEventAllocation} (kept : Kept allocations tables) (member : a ∈ allocations) :
    Listed tables a :=
  ⟨_, validationEvents_eq kept a.keyId, mem_eventsOf.mpr ⟨member, rfl⟩⟩

/-- The chains of validation events, whatever the callers do and in whatever order:
the allocations of a key are one line of generations with advancing cutoffs, a call
that has been answered is answered the same ever after, with an allocation of the chain,
and a capture keeps the event that reserved it first. -/
theorem validationEvents_chain {calls : List EventCall} {tables : EventTables}
    (run : Run Calls ⟨[], []⟩ calls tables) :
    (∀ keyId, ∃ chain, validationEvents tables keyId = .ok chain ∧ EventLine chain ∧
      ∀ a ∈ chain, ∀ b ∈ chain, a.baseValidationKey = b.baseValidationKey) ∧
    (∀ now key a after, allocateBaseValidation now tables key = .ok (a, after) →
      a.baseValidationKey = key ∧ a.revalidationGeneration = 0 ∧ Listed after a ∧
      ∀ later final, Run Calls after later final →
        ∀ now', allocateBaseValidation now' final key = .ok (a, final)) ∧
    (∀ now predecessorId a after,
      allocateRevalidation now tables predecessorId = .ok (a, after) →
      a.predecessorValidationEventId = some predecessorId ∧ Listed after a ∧
      ∀ later final, Run Calls after later final →
        ∀ now', allocateRevalidation now' final predecessorId = .ok (a, final)) ∧
    (tables.reservations.map Prod.fst).Nodup ∧
    ∀ capture event told after, reserveTransientCapture tables capture event = .ok (told, after) →
      ∃ owner, told = decide (owner = event) ∧
        ∀ later final, Run Calls after later final →
          transientCaptureOwner final capture = some owner ∧
          ∀ event', event' ≠ "" →
            reserveTransientCapture final capture event' = .ok (decide (owner = event'), final) := by
  obtain ⟨allocations, start⟩ := kept_empty.run run
  have kept := start.kept
  refine ⟨fun keyId => ?_, ?_, ?_, kept.owners, ?_⟩
  · refine ⟨_, validationEvents_eq kept keyId, kept.chains.line keyId, ?_⟩
    intro a ha b hb
    obtain ⟨a_in, a_key⟩ := mem_eventsOf.mp ha
    obtain ⟨b_in, b_key⟩ := mem_eventsOf.mp hb
    exact kept.chains.same_key a a_in b b_in (a_key.trans b_key.symm)
  · intro now key a after ok
    obtain ⟨new, continues, member, base, own⟩ := allocateBaseValidation_ok kept ok
    refine ⟨own, base, continues.kept.listed member, fun later final rest now' => ?_⟩
    obtain ⟨last, after_all⟩ := continues.kept.run rest
    rw [← own]
    exact allocateBaseValidation_joins after_all.kept (after_all.front.subset member) base now'
  · intro now predecessorId a after ok
    obtain ⟨text, new, rfl, continues, member, names⟩ := allocateRevalidation_ok kept ok
    refine ⟨names, continues.kept.listed member, fun later final rest now' => ?_⟩
    obtain ⟨last, after_all⟩ := continues.kept.run rest
    exact allocateRevalidation_joins after_all.kept (after_all.front.subset member) names now'
  · intro capture event told after ok
    obtain ⟨continues, capture_ne, owner, owned, answer⟩ := reserve_ok kept ok
    refine ⟨owner, answer, fun later final rest => ?_⟩
    obtain ⟨last, after_all⟩ := continues.kept.run rest
    have still : transientCaptureOwner final capture = some owner :=
      lookup_prefix after_all.owned owned
    exact ⟨still, fun event' ne => reserve_owned still capture_ne ne⟩

def sampleKey : BaseValidationKey where
  responseCaptureIdentity := ⟨"capture", by decide⟩
  requestedOutputContractIdentity := ⟨"contract", by decide⟩
  requestedOutputContractVersion := ⟨"v1", by decide⟩
  requestedProfileSelector := ⟨"selector", by decide⟩
  schemaVersion := ⟨"base-validation-key-v1", by decide⟩

def sampleTables : EventTables := ⟨[.of (baseAllocation sampleKey ⟨5, five_lt_end⟩)], []⟩

theorem allocateBaseValidation_sample :
    allocateBaseValidation (some ⟨5, by decide⟩) ⟨[], []⟩ sampleKey =
      .ok (baseAllocation sampleKey ⟨5, by decide⟩, sampleTables) := rfl

def sampleFollowing : ValidationEventAllocation :=
  nextAllocation (baseAllocation sampleKey ⟨5, five_lt_end⟩) ⟨9, nine_lt_end⟩

def sampleFollowed : EventTables :=
  ⟨[.of (baseAllocation sampleKey ⟨5, five_lt_end⟩), .of sampleFollowing], []⟩

def sampleReserved : EventTables :=
  ⟨sampleFollowed.allocations, [("capture", (baseAllocation sampleKey ⟨5, five_lt_end⟩).validationEventId)]⟩

/-- The digests of the two events, each evaluated once. -/
theorem sampleFollowing_ne :
    sampleFollowing.validationEventId ≠ (baseAllocation sampleKey ⟨5, five_lt_end⟩).validationEventId := by
  have key : sampleKey.baseValidationKeyId =
      "base-validation-key:" ++ "ec8b212850a5748827d7b7fbded7c2e9fb23497d554bb3bc653d5be1739cf855" :=
    identity_text (by decide)
  have base : (baseAllocation sampleKey ⟨5, five_lt_end⟩).validationEventId = "response-validation-event:" ++
      "9ac1c652ee1459a808e862ce742fcda3f8b81d33773f8492ab7cb6a05a48e1fb" := by
    unfold ValidationEventAllocation.validationEventId
    dsimp only [baseAllocation]
    rw [key]
    exact identity_text (by decide)
  have following : sampleFollowing.validationEventId = "response-validation-event:" ++
      "30bfb7a6bf793b01fb24f80de07eef2c47d166fa403427e90c62a544a48441f6" := by
    unfold ValidationEventAllocation.validationEventId
    dsimp only [sampleFollowing, nextAllocation]
    rw [base]
    dsimp only [baseAllocation]
    rw [key]
    exact identity_text (by decide)
  rw [base, following]
  decide

/-- The first allocation after a base allocation that stands alone. -/
theorem allocateRevalidation_first {base : ValidationEventAllocation} {now : Moment}
    (genesis : base.revalidationGeneration = 0) (advanced : base.validationCutoff < now)
    (apart : (nextAllocation base now).validationEventId ≠ base.validationEventId) :
    allocateRevalidation (some now) ⟨[.of base], []⟩ base.validationEventId =
      .ok (nextAllocation base now, ⟨[.of base, .of (nextAllocation base now)], []⟩) := by
  obtain ⟨text, named⟩ : ∃ text : CanonicalText, text.val = base.validationEventId :=
    ⟨⟨_, validationEventId_canonical base⟩, rfl⟩
  have alone : base.predecessorValidationEventId = none := base.base genesis
  have found : [AllocationRow.of base].find? (fun row => row.validationEventId = text.val) = some (.of base) :=
    List.find?_cons_of_pos (decide_eq_true named.symm)
  have childless : [AllocationRow.of base].find? (fun row =>
      row.predecessorValidationEventId = some text.val) = none := by
    simp [AllocationRow.of, alone]
  have free : ([AllocationRow.of base].all fun other =>
      !AllocationRow.clashes (.of (nextAllocation base now)) other) = true := by
    have later : (nextAllocation base now).revalidationGeneration ≠ base.revalidationGeneration :=
      Nat.succ_ne_self _
    have names : (nextAllocation base now).predecessorValidationEventId = some base.validationEventId := rfl
    simp [AllocationRow.clashes, AllocationRow.of, apart, later, alone, names]
  have known : (AllocationRow.of (nextAllocation base now)).references [.of base] = true :=
    List.any_eq_true.mpr ⟨_, List.mem_singleton_self _, decide_eq_true rfl⟩
  rw [allocateRevalidation, requiredText_ok.mpr named, ok_bind]
  dsimp only
  rw [found]
  dsimp only
  rw [allocationFromRow_of, ok_bind, childless]
  dsimp only
  rw [clockNow, ok_bind, require_of (Fin.not_le.mpr advanced), ok_bind, insertAllocation,
    require_of ⟨free, known⟩]
  rfl

/-- An event is followed by another one. Later callers join both, and the capture that the
first event has reserved is refused to its follower. -/
theorem validationEvents_chain_sample :
    (∃ chain, validationEvents sampleReserved sampleKey.baseValidationKeyId = .ok chain ∧
      EventLine chain ∧ baseAllocation sampleKey ⟨5, five_lt_end⟩ ∈ chain ∧ sampleFollowing ∈ chain) ∧
    allocateRevalidation (some ⟨11, by decide⟩) sampleReserved
      (baseAllocation sampleKey ⟨5, five_lt_end⟩).validationEventId = .ok (sampleFollowing, sampleReserved) ∧
    reserveTransientCapture sampleReserved "capture" sampleFollowing.validationEventId =
      .ok (false, sampleReserved) := by
  have opened : Calls ⟨[], []⟩ (.allocateBase (some ⟨5, five_lt_end⟩) sampleKey) sampleTables := by
    rw [Calls, EventCall.after, allocateBaseValidation_sample]
    rfl
  have revalidated : allocateRevalidation (some ⟨9, by decide⟩) sampleTables
      (baseAllocation sampleKey ⟨5, five_lt_end⟩).validationEventId = .ok (sampleFollowing, sampleFollowed) :=
    allocateRevalidation_first rfl (by decide) sampleFollowing_ne
  have followed : Calls sampleTables (.allocateRevalidation (some ⟨9, by decide⟩)
      (baseAllocation sampleKey ⟨5, five_lt_end⟩).validationEventId) sampleFollowed := by
    rw [Calls, EventCall.after, revalidated]
    rfl
  have reserved : reserveTransientCapture sampleFollowed "capture"
      (baseAllocation sampleKey ⟨5, five_lt_end⟩).validationEventId = .ok (true, sampleReserved) := by
    have known : (sampleFollowed.allocations.any fun row => row.validationEventId =
        (baseAllocation sampleKey ⟨5, five_lt_end⟩).validationEventId) = true :=
      List.any_eq_true.mpr ⟨_, List.mem_cons_self, decide_eq_true rfl⟩
    rw [reserveTransientCapture, require_of ⟨by decide, identity_ne _ _⟩, ok_bind]
    show (require _ _ >>= fun _ => _) = _
    rw [require_of known, ok_bind]
    rfl
  have taken : Calls sampleFollowed (.reserve "capture"
      (baseAllocation sampleKey ⟨5, five_lt_end⟩).validationEventId) sampleReserved := by
    rw [Calls, EventCall.after, reserved]
    rfl
  have run : Run Calls ⟨[], []⟩ _ sampleReserved := ((Run.nil.snoc opened).snoc followed).snoc taken
  have joins : ∀ now, allocateBaseValidation now sampleReserved sampleKey =
      .ok (baseAllocation sampleKey ⟨5, five_lt_end⟩, sampleReserved) :=
    ((validationEvents_chain Run.nil).2.1 _ _ _ _ allocateBaseValidation_sample).2.2.2 _ _
      ((Run.nil.snoc followed).snoc taken)
  have joins_following : ∀ now, allocateRevalidation now sampleReserved
      (baseAllocation sampleKey ⟨5, five_lt_end⟩).validationEventId = .ok (sampleFollowing, sampleReserved) :=
    ((validationEvents_chain (Run.nil.snoc opened)).2.2.1 _ _ _ _ revalidated).2.2 _ _ (Run.nil.snoc taken)
  refine ⟨?_, joins_following _, ?_⟩
  · obtain ⟨chain, read, line, -⟩ := (validationEvents_chain run).1 sampleKey.baseValidationKeyId
    obtain ⟨chain₁, read₁, first⟩ := ((validationEvents_chain run).2.1 none _ _ _ (joins none)).2.2.1
    obtain ⟨chain₂, read₂, second⟩ := ((validationEvents_chain run).2.2.1 none _ _ _ (joins_following none)).2.1
    cases Except.ok.inj (read.symm.trans read₁)
    cases Except.ok.inj (read.symm.trans read₂)
    exact ⟨chain, read, line, first, second⟩
  · obtain ⟨owner, told, kept⟩ :=
      (validationEvents_chain ((Run.nil.snoc opened).snoc followed)).2.2.2.2 _ _ _ _ reserved
    obtain ⟨owned, answers⟩ := kept [] _ Run.nil
    have same : owner = (baseAllocation sampleKey ⟨5, five_lt_end⟩).validationEventId :=
      of_decide_eq_true told.symm
    rw [answers _ (validationEventId_canonical _).1, same, decide_eq_false sampleFollowing_ne.symm]

end Hunter.ResponseValidator
