import Hunter.ResponseValidator.Reading
import Hunter.ResponseValidator.Validator

/-!
The runtime that evaluates a response. Its bytes and its depth are bounded, its numbers are read
exactly, and every required dimension adds a finding of its own to those before it.
-/

namespace Hunter.ResponseValidator

open Fallible

structure Runtime where
  maximumResponseBytes : Nat
  maximumJsonDepth : Nat
  positive : 0 < maximumResponseBytes ∧ 0 < maximumJsonDepth

/-- `_json_nesting_exceeds`, from a depth inside or outside of a string. -/
def jsonNestingExceeds (maximum : Nat) : Nat → (inString escaped : Bool) → List Char → Bool
  | _, _, _, [] => false
  | depth, true, true, _ :: text => jsonNestingExceeds maximum depth true false text
  | depth, true, false, c :: text => jsonNestingExceeds maximum depth (c ≠ '"') (c = '\\') text
  | depth, false, _, c :: text =>
      if c = '"' then jsonNestingExceeds maximum depth true false text
      else if c = '[' ∨ c = '{' then
        if maximum < depth + 1 then true else jsonNestingExceeds maximum (depth + 1) false false text
      else if c = ']' ∨ c = '}' then jsonNestingExceeds maximum (depth - 1) false false text
      else jsonNestingExceeds maximum depth false false text

namespace Content

/-- `_FORBIDDEN_RESPONSE_KEYS`. -/
def forbiddenResponseKeys : List Points := [
  "tool_calls", "tools", "fetch", "fetch_requests", "http_requests", "repository_writes",
  "schema_changes", "configuration_changes", "config_changes"]

/-- `_contains_forbidden_response_key`. -/
def containsForbiddenResponseKey : Content → Bool
  | .object fields => fields.attach.any fun field =>
      Points.lower field.1.1 ∈ forbiddenResponseKeys || containsForbiddenResponseKey field.1.2
  | .list items => items.attach.any fun item => containsForbiddenResponseKey item.1
  | _ => false
termination_by value => sizeOf value
decreasing_by
  · exact sizeOf_lt_of_mem field.2
  · exact sizeOf_lt_of_item item.2

end Content

/-- The lineage that a response has to declare. -/
structure ResponseLineage where
  attemptId : Points
  buildRecordId : Points
  promptArtifactId : Points

/-- `_response_lineage_matches`. -/
def responseLineageMatches (value : Content) (coordinates : ResponseLineage) : Bool :=
  match value.get? "lineage" with
  | some (.object lineage) =>
      [(("attempt_id" : Points), coordinates.attemptId), ("build_record_id", coordinates.buildRecordId),
        ("prompt_artifact_id", coordinates.promptArtifactId)].all fun expected =>
          match Dict.find expected.1 lineage with
          | some (.str text) => text = expected.2
          | _ => false
  | _ => false

/-- A finding whose texts stand in the source. -/
def sourceFinding (dimension : String) (state : ValidationState) (reasonCode : String)
    (texts : ∀ text ∈ [dimension, reasonCode], text ≠ "" ∧ Chars.strip text.scalars = text.scalars) :
    ValidationFinding :=
  ⟨⟨dimension, texts _ List.mem_cons_self⟩, state,
    ⟨reasonCode, texts _ (List.mem_cons_of_mem _ List.mem_cons_self)⟩⟩

/-- What is found of the evidence references. -/
inductive ReferenceFault where
  | containerInvalid | notAList | canonicalAmbiguous | shapeInvalid | coordinateInvalid
  | responseAmbiguous | doesNotMatch
  deriving DecidableEq, Repr

def ReferenceFault.finding : ReferenceFault → ValidationFinding
  | .containerInvalid => sourceFinding "EVIDENCE_REFERENCE_STRUCTURE"
      .invalidEvidenceReferenceStructure "EVIDENCE_REFERENCE_CONTAINER_INVALID" (by decide)
  | .notAList => sourceFinding "EVIDENCE_REFERENCE_STRUCTURE"
      .invalidEvidenceReferenceStructure "EVIDENCE_REFERENCES_MISSING_OR_NOT_A_LIST" (by decide)
  | .canonicalAmbiguous => sourceFinding "EVIDENCE_REFERENCE_STRUCTURE"
      .evidenceAmbiguous "CANONICAL_EVIDENCE_LINEAGE_AMBIGUOUS" (by decide)
  | .shapeInvalid => sourceFinding "EVIDENCE_REFERENCE_STRUCTURE"
      .invalidEvidenceReferenceStructure "EVIDENCE_REFERENCE_SHAPE_INVALID" (by decide)
  | .coordinateInvalid => sourceFinding "EVIDENCE_REFERENCE_STRUCTURE"
      .invalidEvidenceReferenceStructure "EVIDENCE_REFERENCE_COORDINATE_INVALID" (by decide)
  | .responseAmbiguous => sourceFinding "EVIDENCE_REFERENCE_STRUCTURE"
      .evidenceAmbiguous "RESPONSE_EVIDENCE_REFERENCE_AMBIGUOUS" (by decide)
  | .doesNotMatch => sourceFinding "EVIDENCE_REFERENCE_STRUCTURE"
      .invalidEvidenceReferenceStructure "EVIDENCE_REFERENCE_DOES_NOT_MATCH_CANONICAL_INPUT"
      (by decide)

/-- The hashes of a span among the evidence inputs. -/
def canonicalHashes (evidenceInputs : List (Points × Points)) (spanId : Points) : List Points :=
  ((evidenceInputs.filter fun input => input.1 = spanId).map Prod.snd).dedup

/-- A reference is a mapping of a span and a hash, and of nothing else. -/
def referenceOf : Content → Except ReferenceFault (Points × Points)
  | .object fields =>
      if fields.map Prod.fst ≠ ["span_id", "content_hash"] ∧
          fields.map Prod.fst ≠ ["content_hash", "span_id"] then .error .shapeInvalid
      else match Content.get? (.object fields) "span_id", Content.get? (.object fields) "content_hash" with
        | some (.str spanId), some (.str contentHash) =>
            if spanId = [] ∨ contentHash = [] then .error .coordinateInvalid
            else .ok (spanId, contentHash)
        | _, _ => .error .coordinateInvalid
  | _ => .error .shapeInvalid

/-- The references in their order, given those that were seen. -/
def referencesState (evidenceInputs : List (Points × Points)) :
    (seen : List (Points × Points)) → List Content → Option ReferenceFault
  | _, [] => none
  | seen, reference :: references =>
      match referenceOf reference with
      | .error fault => some fault
      | .ok (spanId, contentHash) =>
          if seen.any fun other => other.1 = spanId && other.2 ≠ contentHash then some .responseAmbiguous
          else if canonicalHashes evidenceInputs spanId ≠ [contentHash] then some .doesNotMatch
          else referencesState evidenceInputs ((spanId, contentHash) :: seen) references

/-- `_evidence_reference_state`. -/
def evidenceReferenceState (value : Content) (evidenceInputs : List (Points × Points)) :
    Option ReferenceFault :=
  if value.isMapping = false then some .containerInvalid
  else match value.get? "evidence_references" with
    | some (.list references) =>
        if evidenceInputs.any fun input => (canonicalHashes evidenceInputs input.1).length ≠ 1 then
          some .canonicalAmbiguous
        else referencesState evidenceInputs [] references
    | _ => some .notAList

/-- The last status of a name, in small letters. -/
def providerStatus (metadata : List (String × String)) (name : String) : Option (List Char) :=
  ((metadata.filter fun status => Chars.lower status.1.scalars = name.scalars).getLast?).map fun status =>
    Chars.lower status.2.scalars

/-- `_response_is_partial`. -/
def responseIsPartial (value : Content) (metadata : List (String × String)) : Bool :=
  value.get? "partial" matches some (.bool true) ||
    ["length", "max_tokens", "truncated", "incomplete"].any fun status =>
      providerStatus metadata "finish_reason" = some status.scalars

/-- What a response is compared with. -/
structure EvaluationInputs where
  coordinates : ResponseLineage
  outputContract : Content
  evidenceInputs : List (Points × Points)
  providerStatusMetadata : List (String × String)
  requiredDimensions : List String

def invalidSyntax : ValidationFinding :=
  sourceFinding "SYNTAX" .invalidSyntax "RESPONSE_JSON_INVALID" (by decide)

def parserFailed : ValidationFinding :=
  sourceFinding "VALIDATOR" .validatorError "PARSER_FAILED_WITHOUT_SYNTAX_DIMENSION" (by decide)

def securityBlocked : ValidationFinding :=
  sourceFinding "SECURITY" .securityBlocked "FORBIDDEN_CAPABILITY_STRUCTURE_PRESENT" (by decide)

def schemaInvalid : ValidationFinding :=
  sourceFinding "SCHEMA" .invalidSchema "OUTPUT_SCHEMA_TYPE_MISMATCH" (by decide)

def contractInvalid : ValidationFinding :=
  sourceFinding "OUTPUT_CONTRACT" .invalidOutputContract "REQUESTED_OUTPUT_CONTRACT_VIOLATION"
    (by decide)

def lineageInvalid : ValidationFinding :=
  sourceFinding "LINEAGE" .invalidLineage "RESPONSE_LINEAGE_MISMATCH" (by decide)

def partialResponse : ValidationFinding :=
  sourceFinding "PARTIAL_RESPONSE" .partialResponse "RESPONSE_DECLARED_OR_TRANSPORT_TRUNCATED"
    (by decide)

def allValid : ValidationFinding :=
  sourceFinding "VALIDATION" .valid "ALL_REQUIRED_DIMENSIONS_VALID" (by decide)

def found (finding : ValidationFinding) (condition : Bool) : List ValidationFinding :=
  if condition then [finding] else []

/-- The contract is gone through only where its dimension is required. -/
def contractFindings (order : Content.SetOrder) (decoded : Content) (inputs : EvaluationInputs) :
    Except Fault (List ValidationFinding) :=
  if "OUTPUT_CONTRACT" ∈ inputs.requiredDimensions then
    found contractInvalid <$> Content.outputContractInvalid order decoded inputs.outputContract
  else .ok []

def orValid : List ValidationFinding → List ValidationFinding
  | [] => [allValid]
  | findings => findings

/-- The findings of a decoded response. -/
def evaluateDecoded (order : Content.SetOrder) (decoded : Content) (inputs : EvaluationInputs) :
    Except Fault (List ValidationFinding) := do
  let required (dimension : String) : Bool := dimension ∈ inputs.requiredDimensions
  let contract ← contractFindings order decoded inputs
  .ok (orValid (
    found securityBlocked (required "SECURITY" && decoded.containsForbiddenResponseKey) ++
    found schemaInvalid (required "SCHEMA" && decoded.schemaTypeInvalid inputs.outputContract) ++
    contract ++
    found lineageInvalid (required "LINEAGE" && !responseLineageMatches decoded inputs.coordinates) ++
    (if required "EVIDENCE_REFERENCE_STRUCTURE" then
      ((evidenceReferenceState decoded inputs.evidenceInputs).map ReferenceFault.finding).toList else []) ++
    found partialResponse
      (required "PARTIAL_RESPONSE" && responseIsPartial decoded inputs.providerStatusMetadata)))

/-- `DeterministicJsonValidationRuntime.evaluate`. -/
def Runtime.evaluate (runtime : Runtime) (order : Content.SetOrder) (responseText : String)
    (inputs : EvaluationInputs) : Except Fault (List ValidationFinding) := do
  require ((Chars.encode responseText.scalars).length ≤ runtime.maximumResponseBytes)
    (.ruleUnavailable "response exceeds the exact installed resource policy")
  require (jsonNestingExceeds runtime.maximumJsonDepth 0 false false responseText.scalars = false)
    (.ruleUnavailable "response exceeds the exact installed JSON-depth policy")
  match loads responseText with
  | .error .beyond =>
      .error (.ruleUnavailable "response number exceeds the exact installed numeric capability")
  | .error .malformed => .ok [if "SYNTAX" ∈ inputs.requiredDimensions then invalidSyntax else parserFailed]
  | .ok decoded => evaluateDecoded order decoded inputs

end Hunter.ResponseValidator
