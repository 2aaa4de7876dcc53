import Mathlib
import Hunter.SourceHandling.Values

/-!
The check of a payload that is to be made durable, and what it leaves of a protected source. Every
field has to be a safe control identity with a proof in the registry. Of a structured value the
proof looks at two members, so whatever else stands in it is made durable with them.
-/

namespace Hunter.SourceHandling

open Fallible

/-- `bool(value)`. -/
def Value.truthy : Value → Bool
  | .none => false
  | .bool b => b
  | .number n => n != 0
  | .text content => content != ""
  | .list items | .tuple items | .set _ items => !items.isEmpty
  | .mapping fields => !fields.isEmpty
  | .datetime _ _ | .other _ => true

/-- Whether `hash(value)` is defined. -/
def Value.hashable : Value → Bool
  | .set frozen _ => frozen
  | .list _ | .mapping _ => false
  | .tuple items => items.attach.all fun item => Value.hashable item.1
  | _ => true
termination_by value => sizeOf value
decreasing_by
  have := List.sizeOf_lt_of_mem item.2
  simp only [Value.tuple.sizeOf_spec]
  omega

/-- Whether a value can be looked up in a set, where a set is looked up as a frozen one. -/
def Value.lookable : Value → Bool
  | .set _ _ => true
  | value => value.hashable

/-- `GOVERNED_DURABLE_CATEGORIES`. -/
def governedDurableCategories : List String := [
  "SOURCE_BYTES", "SOURCE_DERIVED_TEXT", "CONTENT_DERIVED_ID", "LOCATOR_URL", "COORDINATE",
  "OPERATIONAL_METADATA", "DIAGNOSTIC", "PROVENANCE_ID", "AUDIT_FIELD", "SAFE_CONTROL_ID",
  "RECONSTRUCTION_METADATA", "ACCESS_CONTROLLED_REPRESENTATION", "LIFECYCLE_STATE", "UNKNOWN_CATEGORY"]

/-- `governed_durable_category`. -/
def governedDurableCategory : Value → String
  | .text text => if text ∈ governedDurableCategories then text else "UNKNOWN_CATEGORY"
  | _ => "UNKNOWN_CATEGORY"

def declaredCategories (fieldMap : Record) (field : String) : List Value :=
  match fieldMap.get? field with
  | some (.text text) => [.text text]
  | some (.list items) | some (.tuple items) | some (.set _ items) => items
  | _ => []

def resolvedCategories (candidates : List Value) : List String :=
  if candidates.isEmpty then ["UNKNOWN_CATEGORY"]
  else (candidates.map governedDurableCategory).dedup.mergeSort fun a b => a ≤ b

/-- `governed_field_categories`. -/
def governedFieldCategories (fieldMap : Record) (field : String) : List String :=
  resolvedCategories (declaredCategories fieldMap field)

theorem resolvedCategories_ne_nil (candidates : List Value) : resolvedCategories candidates ≠ [] := by
  unfold resolvedCategories
  split
  · exact List.cons_ne_nil _ _
  · rename_i items
    intro empty
    have perm := List.mergeSort_perm (candidates.map governedDurableCategory).dedup fun a b => a ≤ b
    rw [empty] at perm
    rw [List.nil_perm, List.dedup_eq_nil, List.map_eq_nil_iff] at perm
    exact items (List.isEmpty_iff.mpr perm)

theorem resolvedCategories_nodup (candidates : List Value) : (resolvedCategories candidates).Nodup := by
  unfold resolvedCategories
  split
  · exact List.nodup_cons.mpr ⟨List.not_mem_nil, List.nodup_nil⟩
  · exact (List.mergeSort_perm _ _).nodup_iff.mpr (List.nodup_dedup _)

/-- `CONTENT_DISPOSITION_ORDER`. -/
def contentDispositionOrder : List String := ["ALLOW", "REDACT", "OMIT", "DENY", "BLOCKED"]

/-- `LIFECYCLE_DISPOSITION_ORDER`. -/
def lifecycleDispositionOrder : List String := ["ALLOW", "EXPIRE", "DELETE", "BLOCKED"]

def worstDisposition (order : List String) : (worst : String) → List (Option Value) → String
  | worst, [] => worst
  | worst, some (.text text) :: values =>
      if text ∉ order then "BLOCKED"
      else worstDisposition order (if order.idxOf worst < order.idxOf text then text else worst) values
  | _, _ :: _ => "BLOCKED"

/-- `_disposition_join`. -/
def dispositionJoin (values : List (Option Value)) (order : List String) : String :=
  if values.isEmpty then "BLOCKED" else worstDisposition order "ALLOW" values

/-- `_category_disposition`. -/
def categoryDisposition (dispositions : Record) (operation category : String) : Option Value :=
  match dispositions.get? category with
  | some (.mapping fields) => Record.get? fields operation
  | _ => none

/-- `effective_persist_disposition`. -/
def effectivePersistDisposition (dispositions : Record) (categories : List String) : String :=
  dispositionJoin (categories.map (categoryDisposition dispositions "PERSIST")) contentDispositionOrder

/-- `effective_lifecycle_disposition`. -/
def effectiveLifecycleDisposition (dispositions : Record) (categories : List String) : String :=
  dispositionJoin (categories.map (categoryDisposition dispositions "DELETE_OR_EXPIRE"))
    lifecycleDispositionOrder

/-- `PROTECTED_SECRET_PRESENCE`. -/
def protectedSecretPresence : List String := ["SECRET_PRESENT", "CREDENTIAL_PRESENT"]

/-- `_derived_from_protected_content`. -/
def derivedFromProtectedContent : Value → Bool
  | .mapping fields => (Record.get? fields "derived_from_protected_content" matches some (.bool true))
  | _ => false

section

-- The equality of values is any.
variable (equals : Value → Value → Bool)

/-- `value in collection`. -/
def isIn (value : Value) : Value → Except Raised Bool
  | .list items | .tuple items => .ok (items.any (equals value))
  | .set _ items => if value.lookable then .ok (items.any (equals value)) else .error .typeError
  | _ => .error .typeError

/-- The value that a proof is asked for. -/
def provenPart : Value → Value
  | .mapping fields => (Record.get? fields "value").getD .none
  | value => value

/-- The identity of a proof that a structured value names is the proof's own. -/
def proofNamed (proofId : String) : Value → Except Raised Unit
  | .mapping fields =>
      match (Record.get? fields "proof_id").getD .none with
      | .none => .ok ()
      | .text text => require (text = proofId) (.blocked "SAFE_CONTROL_ID proof identity mismatch")
      | other =>
          if other.lookable then .error (.blocked "SAFE_CONTROL_ID proof identity mismatch")
          else .error .typeError
  | _ => .ok ()

def isCollection : Value → Bool
  | .list _ | .tuple _ | .set _ _ => true
  | _ => false

/-- `_validate_safe_control_proof`. -/
def validateSafeControlProof (registry : Record) (field : String) (value : Value) : Except Raised Unit :=
  match registry.get? "safe_control_proofs" with
  | some (.mapping proofs) =>
      match Record.get? proofs field with
      | some (.mapping proof) =>
          match Record.get? proof "proof_id", Record.get? proof "allowed_values" with
          | some (.text proofId), some allowed => do
              require (proofId ≠ "" ∧ isCollection allowed = true)
                (.blocked "SAFE_CONTROL_ID construction proof is incomplete")
              let proven ← isIn equals (provenPart value) allowed
              require (proven = true)
                (.blocked "SAFE_CONTROL_ID value is not proven by the historical registry")
              proofNamed proofId value
          | _, _ => .error (.blocked "SAFE_CONTROL_ID construction proof is incomplete")
      | _ => .error (.blocked "SAFE_CONTROL_ID field lacks governed construction proof")
  | _ => .error (.blocked "SAFE_CONTROL_ID construction proof is unavailable")

/-- One category of a field. -/
def validateCategory (registry : Record) (protected_ : Bool) (field : String) (value : Value)
    (category : String) : Except Raised Unit :=
  if category = "SAFE_CONTROL_ID" then validateSafeControlProof equals registry field value
  else require (protected_ = false)
    (.blocked "protected source cannot persist through a risky secondary category")

/-- One field of a payload. -/
def validateField (registry fieldMap dispositions : Record) (protected_ : Bool)
    (entry : String × Value) : Except Raised Unit := do
  let categories := governedFieldCategories fieldMap entry.1
  require ("UNKNOWN_CATEGORY" ∉ categories) (.blocked "durable field category is unknown or ambiguous")
  categories.forM (validateCategory equals registry protected_ entry.1 entry.2)
  require (effectivePersistDisposition dispositions categories = "ALLOW")
    (.blocked "durable field persistence is not allowed")
  require (effectiveLifecycleDisposition dispositions categories ∉ ["DELETE", "BLOCKED"])
    (.blocked "durable field lifecycle disposition forbids a durable write")
  require ((protected_ && derivedFromProtectedContent entry.2) = false)
    (.blocked "secret/credential-derived secondary representation cannot persist")

/-- `validate_durable_payload`. -/
def validateDurablePayload (decision registry payload : Record) (secretPresence : List String) :
    Except Raised Unit := do
  let decisionRegistry := (decision.get? "field_category_registry_id").getD .none
  let registryId := (registry.get? "field_category_registry_id").getD .none
  require (decisionRegistry.truthy = true ∧ equals decisionRegistry registryId = true)
    (.blocked "exact historical field-category registry required")
  require ((decision.get? "publication_authorization").getD .none matches .none)
    (.blocked "caller-supplied publication authorization cannot satisfy persistence")
  match registry.get? "field_map", decision.get? "durable_dispositions" with
  | some (.mapping fieldMap), some (.mapping dispositions) =>
      let protected_ := secretPresence.any fun presence => presence ∈ protectedSecretPresence
      payload.forM (validateField equals registry fieldMap dispositions protected_)
  | _, _ => .error (.blocked "durable field authority is incomplete")

/-- The items of a collection. -/
def members : Value → List Value
  | .list items | .tuple items | .set _ items => items
  | _ => []

/-- The value equals one of the values that the registry allows. -/
def Allowed (value allowed : Value) : Prop := ∃ item ∈ members allowed, equals value item = true

/-- The structured value has no members but the proven value and the identity of the proof. -/
def OnlyProof (fields : Record) : Prop := ∀ entry ∈ fields, entry.1 = "value" ∨ entry.1 = "proof_id"

/-- The governed proof of a field. -/
structure Proof (registry : Record) (field : String) (proofId : String) (allowed : Value) : Prop where
  found : ∃ proofs proof, registry.get? "safe_control_proofs" = some (.mapping proofs) ∧
    Record.get? proofs field = some (.mapping proof) ∧
    Record.get? proof "proof_id" = some (.text proofId) ∧
    Record.get? proof "allowed_values" = some allowed
  complete : proofId ≠ "" ∧ isCollection allowed = true

/-- The value is an allowed one, or a mapping of an allowed one and the identity of the proof. -/
def NothingElse (proofId : String) (allowed value : Value) : Prop :=
  Allowed equals value allowed ∨ ∃ fields, value = .mapping fields ∧ OnlyProof fields ∧
    Allowed equals ((Record.get? fields "value").getD .none) allowed ∧
    ((Record.get? fields "proof_id").getD .none = .none ∨
      Record.get? fields "proof_id" = some (.text proofId))

/-- Every field is a safe control identity and its value tells the proof and no more. -/
def LeaksNothing (registry fieldMap payload : Record) : Prop :=
  ∀ entry ∈ payload, governedFieldCategories fieldMap entry.1 = ["SAFE_CONTROL_ID"] ∧
    ∃ proofId allowed, Proof registry entry.1 proofId allowed ∧
      NothingElse equals proofId allowed entry.2

theorem isIn_true {value collection : Value} (done : isIn equals value collection = .ok true) :
    Allowed equals value collection := by
  have any (items : List Value) (found : items.any (equals value) = true) :
      ∃ item ∈ items, equals value item = true := List.any_eq_true.mp found
  unfold isIn at done
  split at done
  · exact any _ (Except.ok.inj done)
  · exact any _ (Except.ok.inj done)
  · split at done
    · exact any _ (Except.ok.inj done)
    · cases done
  · cases done

theorem proofNamed_ok {proofId : String} {fields : Record}
    (done : proofNamed proofId (.mapping fields) = .ok ()) :
    (Record.get? fields "proof_id").getD .none = .none ∨
      Record.get? fields "proof_id" = some (.text proofId) := by
  rw [proofNamed] at done
  split at done
  · rename_i absent
    exact Or.inl absent
  · rename_i text given
    have same := require_ok.mp done
    subst same
    refine Or.inr ?_
    cases found : Record.get? fields "proof_id" with
    | none =>
        rw [found] at given
        cases given
    | some other =>
        rw [found] at given
        exact congrArg some given
  · split at done <;> cases done

/-- What a checked proof says of a value. -/
theorem validateSafeControlProof_ok {registry : Record} {field : String} {value : Value}
    (done : validateSafeControlProof equals registry field value = .ok ()) :
    ∃ proofId allowed, Proof registry field proofId allowed ∧
      Allowed equals (provenPart value) allowed ∧ proofNamed proofId value = .ok () := by
  unfold validateSafeControlProof at done
  split at done
  · rename_i proofs first
    split at done
    · rename_i proof second
      split at done
      · rename_i proofId allowed named values
        obtain ⟨complete, done⟩ := require_bind_ok.mp done
        obtain ⟨proven, inside, done⟩ := bind_ok.mp done
        obtain ⟨yes, done⟩ := require_bind_ok.mp done
        subst yes
        exact ⟨proofId, allowed, ⟨⟨proofs, proof, first, second, named, values⟩, complete⟩,
          isIn_true equals inside, done⟩
      · cases done
    · cases done
  · cases done

/-- The categories of a protected field that passes. -/
theorem validateField_ok {registry fieldMap dispositions : Record} {entry : String × Value}
    (done : validateField equals registry fieldMap dispositions true entry = .ok ()) :
    governedFieldCategories fieldMap entry.1 = ["SAFE_CONTROL_ID"] ∧
      validateSafeControlProof equals registry entry.1 entry.2 = .ok () := by
  obtain ⟨known, done⟩ := require_bind_ok.mp done
  obtain ⟨each, -⟩ := check_ok.mp done
  have checked := forM_ok.mp each
  have only (category : String) (inside : category ∈ governedFieldCategories fieldMap entry.1) :
      category = "SAFE_CONTROL_ID" := by
    have passed := checked category inside
    rw [validateCategory] at passed
    split at passed
    · rename_i safe
      exact safe
    · exact absurd (require_ok.mp passed) nofun
  have shape : governedFieldCategories fieldMap entry.1 = ["SAFE_CONTROL_ID"] := by
    refine List.perm_singleton.mp ((List.perm_ext_iff_of_nodup (resolvedCategories_nodup _)
      (List.nodup_cons.mpr ⟨List.not_mem_nil, List.nodup_nil⟩)).mpr fun category => ?_)
    obtain ⟨first, inside⟩ :=
      List.exists_mem_of_ne_nil _ (resolvedCategories_ne_nil (declaredCategories fieldMap entry.1))
    rw [List.mem_singleton]
    refine ⟨only category, fun same => ?_⟩
    rwa [same, ← only first inside]
  refine ⟨shape, ?_⟩
  have passed := checked "SAFE_CONTROL_ID" (shape ▸ List.mem_cons_self)
  rwa [validateCategory, if_pos rfl] at passed

theorem Proof.unique {registry : Record} {field proofId proofId' : String} {allowed allowed' : Value}
    (first : Proof registry field proofId allowed) (second : Proof registry field proofId' allowed') :
    allowed = allowed' := by
  obtain ⟨proofs, proof, found, inside, -, values⟩ := first.found
  obtain ⟨proofs', proof', found', inside', -, values'⟩ := second.found
  cases found.symm.trans found'
  cases inside.symm.trans inside'
  cases values.symm.trans values'
  rfl

/-- An accepted payload of a protected source leaks nothing just where no structured value has a
member beside the proven value and the identity of its proof, unless it is an allowed value as it
stands. -/
theorem protected_leaksNothing (decision registry payload : Record) (secretPresence : List String)
    (accepted : validateDurablePayload equals decision registry payload secretPresence = .ok ())
    (present : ∃ presence ∈ secretPresence, presence ∈ protectedSecretPresence) :
    (∃ fieldMap, registry.get? "field_map" = some (.mapping fieldMap) ∧
      LeaksNothing equals registry fieldMap payload) ↔
    ∀ entry ∈ payload, ∀ fields, entry.2 = .mapping fields → OnlyProof fields ∨
      ∃ proofId allowed, Proof registry entry.1 proofId allowed ∧ Allowed equals entry.2 allowed := by
  obtain ⟨-, done⟩ := require_bind_ok.mp accepted
  obtain ⟨-, done⟩ := require_bind_ok.mp done
  split at done
  swap
  · cases done
  rename_i fieldMap dispositions mapped disposed
  have secret : (secretPresence.any fun presence => presence ∈ protectedSecretPresence) = true := by
    obtain ⟨presence, inside, known⟩ := present
    exact List.any_eq_true.mpr ⟨presence, inside, decide_eq_true known⟩
  rw [secret] at done
  have checked (entry : String × Value) (inside : entry ∈ payload) :=
    validateField_ok equals (forM_ok.mp done entry inside)
  constructor
  · intro ⟨fieldMap', same, leaks⟩ entry inside fields given
    obtain ⟨-, proofId, allowed, proof, whole | ⟨others, given', only, -⟩⟩ := leaks entry inside
    · exact Or.inr ⟨proofId, allowed, proof, whole⟩
    · cases given.symm.trans given'
      exact Or.inl only
  · intro exact_
    refine ⟨fieldMap, mapped, fun entry inside => ⟨(checked entry inside).1, ?_⟩⟩
    obtain ⟨proofId, allowed, proof, proven, named⟩ :=
      validateSafeControlProof_ok equals (checked entry inside).2
    refine ⟨proofId, allowed, proof, ?_⟩
    cases given : entry.2 with
    | mapping fields =>
        rw [given] at proven named
        rcases exact_ entry inside fields given with only | ⟨other, allowed', proof', whole⟩
        · exact Or.inr ⟨fields, rfl, only, proven, proofNamed_ok named⟩
        · rw [proof.unique proof', ← given]
          exact Or.inl whole
    | _ =>
        rw [given] at proven
        exact Or.inl proven

end

/-- The equality of texts. -/
def sameText : Value → Value → Bool
  | .text a, .text b => a = b
  | _, _ => false

def sampleRegistry : Record := [("field_category_registry_id", .text "registry-1"),
  ("field_map", .mapping [("control_id", .text "SAFE_CONTROL_ID")]),
  ("safe_control_proofs", .mapping [("control_id", .mapping [("proof_id", .text "proof-1"),
    ("allowed_values", .list [.text "control-1"])])])]

def sampleDecision : Record := [("field_category_registry_id", .text "registry-1"),
  ("durable_dispositions", .mapping [("SAFE_CONTROL_ID", .mapping [("PERSIST", .text "ALLOW"),
    ("DELETE_OR_EXPIRE", .text "ALLOW")])])]

def samplePayload (others : Record) : Record :=
  [("control_id", .mapping (("value", .text "control-1") :: others))]

theorem samplePayload_accepted (others : Record) (unnamed : others = [] ∨ others = [("note", .text "secret")]) :
    validateDurablePayload sameText sampleDecision sampleRegistry (samplePayload others)
      ["SECRET_PRESENT"] = .ok () := by
  rcases unnamed with rfl | rfl
  · decide +kernel
  · decide +kernel

/-- A payload of the proven value alone. -/
theorem protected_leaksNothing_sample :
    ∃ fieldMap, Record.get? sampleRegistry "field_map" = some (.mapping fieldMap) ∧
      LeaksNothing sameText sampleRegistry fieldMap (samplePayload []) := by
  refine (protected_leaksNothing sameText sampleDecision sampleRegistry (samplePayload []) ["SECRET_PRESENT"]
    (samplePayload_accepted [] (Or.inl rfl)) ⟨_, List.mem_cons_self, by decide⟩).mpr ?_
  intro entry inside fields given
  rw [List.mem_singleton.mp inside] at given
  cases given
  exact Or.inl (List.forall_mem_singleton.mpr (by decide))

/-- Beside the proven value a structured value carries any other member. -/
theorem protected_leaksNothing_fails : ¬∀ equals decision registry payload secretPresence,
    validateDurablePayload equals decision registry payload secretPresence = .ok () →
    (∃ presence ∈ secretPresence, presence ∈ protectedSecretPresence) →
    ∃ fieldMap, Record.get? registry "field_map" = some (.mapping fieldMap) ∧
      LeaksNothing equals registry fieldMap payload := by
  intro claim
  obtain ⟨fieldMap, -, leaks⟩ := claim sameText sampleDecision sampleRegistry
    (samplePayload [("note", .text "secret")]) ["SECRET_PRESENT"]
    (samplePayload_accepted _ (Or.inr rfl)) ⟨_, List.mem_cons_self, by decide⟩
  obtain ⟨-, proofId, allowed, -, whole | ⟨fields, same, only, -⟩⟩ := leaks _ List.mem_cons_self
  · obtain ⟨item, -, equal⟩ := whole
    cases item <;> cases equal
  · cases same
    have note := only ("note", .text "secret") (List.mem_cons_of_mem _ List.mem_cons_self)
    exact absurd note (by decide)

end Hunter.SourceHandling
