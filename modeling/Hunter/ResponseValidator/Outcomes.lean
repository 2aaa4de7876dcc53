import Hunter.ResponseValidator.Vocabulary

/-!
The closed vocabulary of validation states with its order of precedence, findings,
and the canonical form of a decided outcome: a refusal, or findings whose highest
state is the state of the outcome. The canonical form of a canonical outcome is the
outcome itself.
-/

namespace Hunter.ResponseValidator

open Fallible

inductive ValidationState where
  | valid
  | invalidSyntax
  | invalidSchema
  | invalidOutputContract
  | invalidLineage
  | invalidEvidenceReferenceStructure
  | partialResponse
  | inputUnavailable
  | ruleUnavailable
  | validatorCapabilityUnknown
  | evidenceAmbiguous
  | sourceHandlingBlocked
  | securityBlocked
  | validatorError
  deriving DecidableEq, Repr

namespace ValidationState

def text : ValidationState → String
  | .valid => "VALID"
  | .invalidSyntax => "INVALID_SYNTAX"
  | .invalidSchema => "INVALID_SCHEMA"
  | .invalidOutputContract => "INVALID_OUTPUT_CONTRACT"
  | .invalidLineage => "INVALID_LINEAGE"
  | .invalidEvidenceReferenceStructure => "INVALID_EVIDENCE_REFERENCE_STRUCTURE"
  | .partialResponse => "PARTIAL_RESPONSE"
  | .inputUnavailable => "INPUT_UNAVAILABLE"
  | .ruleUnavailable => "RULE_UNAVAILABLE"
  | .validatorCapabilityUnknown => "VALIDATOR_CAPABILITY_UNKNOWN"
  | .evidenceAmbiguous => "EVIDENCE_AMBIGUOUS"
  | .sourceHandlingBlocked => "SOURCE_HANDLING_BLOCKED"
  | .securityBlocked => "SECURITY_BLOCKED"
  | .validatorError => "VALIDATOR_ERROR"

/-- `VALIDATION_STATE_PRECEDENCE`, highest first. -/
def precedence : List ValidationState := [
  .securityBlocked, .sourceHandlingBlocked, .validatorError, .validatorCapabilityUnknown,
  .inputUnavailable, .ruleUnavailable, .evidenceAmbiguous, .invalidLineage, .invalidSyntax,
  .invalidSchema, .invalidOutputContract, .invalidEvidenceReferenceStructure, .partialResponse,
  .valid]

def rank (state : ValidationState) : Nat := precedence.idxOf state

end ValidationState

/-- `canonical_validation_state`: an unknown text is refused. -/
def canonicalValidationState (value : String) : Py ValidationState :=
  match ValidationState.precedence.find? fun state => state.text = value with
  | some state => .ok state
  | none => .error (.unknownValidationState value)

theorem canonicalValidationState_text (state : ValidationState) :
    canonicalValidationState state.text = .ok state := by
  cases state <;> rfl

theorem ValidationState.text_inj {a b : ValidationState} : a.text = b.text ↔ a = b := by
  refine ⟨fun same => ?_, congrArg text⟩
  have read := canonicalValidationState_text a
  rw [same, canonicalValidationState_text] at read
  exact (Except.ok.inj read).symm

/-- The state of lower rank, the first of two of one rank. -/
def higher (a b : ValidationState) : ValidationState := if b.rank < a.rank then b else a

def highestPrecedence : List ValidationState → Py ValidationState
  | [] => .error (.unknownValidationState "at least one canonical validation state is required")
  | first :: rest => .ok (rest.foldl higher first)

/-- A canonical `(dimension, state, reason_code)` triple. -/
structure Finding where
  dimension : String
  state : ValidationState
  reasonCode : String
  deriving DecidableEq, Repr

namespace Finding

def triple (finding : Finding) : String × String × String :=
  (finding.dimension, finding.state.text, finding.reasonCode)

/-- The order of the triples. -/
def before (a b : Finding) : Bool :=
  a.dimension < b.dimension || (a.dimension = b.dimension && (a.state.text < b.state.text ||
    (a.state.text = b.state.text && a.reasonCode ≤ b.reasonCode)))

theorem before_iff {a b : Finding} : a.before b = true ↔
    a.dimension < b.dimension ∨ a.dimension = b.dimension ∧ (a.state.text < b.state.text ∨
      a.state.text = b.state.text ∧ a.reasonCode ≤ b.reasonCode) := by
  simp [before]

theorem before_trans (a b c : Finding) (first : a.before b = true) (second : b.before c = true) :
    a.before c = true := by
  rw [before_iff] at *
  rcases first with ab | ⟨ab, first⟩
  · rcases second with bc | ⟨bc, -⟩
    · exact Or.inl (ab.trans bc)
    · exact Or.inl (bc ▸ ab)
  · rcases second with bc | ⟨bc, second⟩
    · exact Or.inl (ab ▸ bc)
    · refine Or.inr ⟨ab.trans bc, ?_⟩
      rcases first with st | ⟨st, reasons⟩
      · rcases second with tu | ⟨tu, -⟩
        · exact Or.inl (st.trans tu)
        · exact Or.inl (tu ▸ st)
      · rcases second with tu | ⟨tu, more⟩
        · exact Or.inl (st ▸ tu)
        · exact Or.inr ⟨st.trans tu, reasons.trans more⟩

theorem before_total (a b : Finding) : (a.before b || b.before a) = true := by
  rw [Bool.or_eq_true, before_iff, before_iff]
  rcases lt_trichotomy a.dimension b.dimension with less | same | more
  · exact Or.inl (Or.inl less)
  · rcases lt_trichotomy a.state.text b.state.text with less | states | more
    · exact Or.inl (Or.inr ⟨same, Or.inl less⟩)
    · rcases le_total a.reasonCode b.reasonCode with less | more
      · exact Or.inl (Or.inr ⟨same, Or.inr ⟨states, less⟩⟩)
      · exact Or.inr (Or.inr ⟨same.symm, Or.inr ⟨states.symm, more⟩⟩)
    · exact Or.inr (Or.inr ⟨same.symm, Or.inl more⟩)
  · exact Or.inr (Or.inl more)

/-- `sorted`. -/
def sorted (findings : List Finding) : List Finding := findings.mergeSort before

theorem sorted_idem (findings : List Finding) : sorted (sorted findings) = sorted findings :=
  List.mergeSort_of_pairwise (List.pairwise_mergeSort before_trans before_total findings)

end Finding

/-- Non-blank text, returned unchanged. -/
def nonBlank (name value : String) : Py String := do
  require (Chars.strip value.scalars ≠ [])
    (.correctionConflict (name ++ " must be non-blank"))
  .ok value

theorem nonBlank_ok {name value result : String} :
    nonBlank name value = .ok result ↔ Chars.strip value.scalars ≠ [] ∧ value = result := by
  rw [nonBlank, require_bind_ok, Except.ok.injEq]

def canonicalFinding (finding : String × String × String) : Py Finding := do
  let dimension ← nonBlank "finding dimension" finding.1
  let state ← canonicalValidationState finding.2.1
  let reasonCode ← nonBlank "finding reason_code" finding.2.2
  .ok ⟨dimension, state, reasonCode⟩

/-- What canonical findings are read back from. -/
theorem canonicalFinding_triple {finding : String × String × String} {canonical : Finding}
    (ok : canonicalFinding finding = .ok canonical) : canonicalFinding canonical.triple = .ok canonical := by
  obtain ⟨dimension, first, ok⟩ := bind_ok.mp ok
  obtain ⟨state, -, ok⟩ := bind_ok.mp ok
  obtain ⟨reason, last, ok⟩ := bind_ok.mp ok
  cases ok
  have dimension_ok := (nonBlank_ok.mp first).1
  have reason_ok := (nonBlank_ok.mp last).1
  rw [(nonBlank_ok.mp first).2] at dimension_ok
  rw [(nonBlank_ok.mp last).2] at reason_ok
  rw [canonicalFinding, Finding.triple, nonBlank_ok.mpr ⟨dimension_ok, rfl⟩, ok_bind,
    canonicalValidationState_text, ok_bind, nonBlank_ok.mpr ⟨reason_ok, rfl⟩, ok_bind]

def refusalStates : List ValidationState := [
  .inputUnavailable, .ruleUnavailable, .validatorCapabilityUnknown, .sourceHandlingBlocked,
  .securityBlocked]

/-- The checks of an outcome against its findings in order. -/
def requireOutcome (state : ValidationState) (findings : List Finding)
    (refusalReasonCode : Option String) (executed : Option Bool) : Py Unit :=
  match refusalReasonCode with
  | some reason => do
      let _ ← nonBlank "refusal_reason_code" reason
      require (findings = [] ∧ executed = none ∧ state ∈ refusalStates)
        (.correctionConflict "correction refusal semantics contradict canonical refusal invariants")
  | none => do
      require (findings ≠ [] ∧ executed.isSome) (.correctionConflict
        "correction semantic outcome requires canonical findings and execution metadata")
      let highest ← highestPrecedence (findings.map Finding.state)
      require (highest = state)
        (.correctionConflict "correction state does not match canonical finding precedence")
      require (state = .valid → ∀ finding ∈ findings, finding.state = .valid)
        (.correctionConflict "VALID correction cannot contain a non-VALID finding")

/-- `_canonical_outcome`. -/
def canonicalOutcome (state : String) (findings : List (String × String × String))
    (refusalReasonCode : Option String) (executed : Option Bool) :
    Py (ValidationState × List Finding) := do
  let state ← canonicalValidationState state
  let findings ← findings.mapM canonicalFinding
  let normalized := Finding.sorted findings
  requireOutcome state normalized refusalReasonCode executed
  .ok (state, normalized)

/-- A canonical outcome is its own canonical form. -/
theorem canonicalOutcome_idem {state : String} {findings : List (String × String × String)}
    {refusal : Option String} {executed : Option Bool} {canonical : ValidationState × List Finding}
    (ok : canonicalOutcome state findings refusal executed = .ok canonical) :
    canonicalOutcome canonical.1.text (canonical.2.map Finding.triple) refusal executed =
      .ok canonical := by
  obtain ⟨known, -, ok⟩ := bind_ok.mp ok
  obtain ⟨read, mapped, ok⟩ := bind_ok.mp ok
  obtain ⟨checked, ok⟩ := check_ok.mp ok
  cases ok
  have again : ((Finding.sorted read).map Finding.triple).mapM canonicalFinding =
      .ok (Finding.sorted read) := by
    have each : ∀ finding ∈ Finding.sorted read,
        canonicalFinding finding.triple = .ok finding := by
      intro finding member
      have inside : finding ∈ read := (List.mergeSort_perm read Finding.before).mem_iff.mp member
      obtain ⟨raw, -, made⟩ := mapM_ok_mem mapped inside
      exact canonicalFinding_triple made
    rw [List.mapM_map]
    have all := mapM_ok_of_forall (g := id) each
    rwa [List.map_id] at all
  rw [canonicalOutcome, canonicalValidationState_text, ok_bind, again, ok_bind]
  dsimp only
  rw [Finding.sorted_idem, checked, ok_bind]

end Hunter.ResponseValidator
