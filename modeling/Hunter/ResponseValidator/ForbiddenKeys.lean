import Hunter.ResponseValidator.Comparisons

/-!
The names that no response may carry, against every member of its text. The check goes through
the decoded value, so a name that stands only in the value of a member that a later one of its
key replaces is not seen.
-/

namespace Hunter.ResponseValidator

open Fallible

/-- A name that is forbidden in small letters. -/
def ForbiddenName (name : Points) : Prop := Points.lower name ∈ Content.forbiddenResponseKeys

instance decidableForbiddenName : DecidablePred ForbiddenName :=
  fun name => inferInstanceAs (Decidable (Points.lower name ∈ Content.forbiddenResponseKeys))

namespace Content

theorem containsForbidden_object (fields : List (Points × Content)) :
    containsForbiddenResponseKey (.object fields) = true ↔
      ∃ field ∈ fields, ForbiddenName field.1 ∨ containsForbiddenResponseKey field.2 = true := by
  rw [containsForbiddenResponseKey, List.any_eq_true]
  constructor
  · rintro ⟨field, _, found⟩
    exact ⟨field.1, field.2, (Bool.or_eq_true_iff.mp found).imp_left of_decide_eq_true⟩
  · rintro ⟨field, inside, found⟩
    exact ⟨⟨field, inside⟩, List.mem_attach _ _, Bool.or_eq_true_iff.mpr (found.imp_left decide_eq_true)⟩

theorem containsForbidden_list (items : List Content) :
    containsForbiddenResponseKey (.list items) = true ↔
      ∃ item ∈ items, containsForbiddenResponseKey item = true := by
  rw [containsForbiddenResponseKey, List.any_eq_true]
  constructor
  · rintro ⟨item, _, found⟩
    exact ⟨item.1, item.2, found⟩
  · rintro ⟨item, inside, found⟩
    exact ⟨⟨item, inside⟩, List.mem_attach _ _, found⟩

/-- The check finds the names of a value. -/
theorem containsForbidden_iff {value : Content} :
    value.containsForbiddenResponseKey = true ↔ value.Named ForbiddenName := by
  induction value with
  | list items ih =>
      rw [containsForbidden_list]
      constructor
      · rintro ⟨item, inside, found⟩
        exact .item inside ((ih item inside).mp found)
      · intro named
        cases named with
        | item inside found => exact ⟨_, inside, (ih _ inside).mpr found⟩
  | object fields ih =>
      rw [containsForbidden_object]
      constructor
      · rintro ⟨field, inside, name | found⟩
        · exact .name (show (field.1, field.2) ∈ fields from inside) name
        · exact .member (show (field.1, field.2) ∈ fields from inside) ((ih field inside).mp found)
      · intro named
        cases named with
        | name inside found => exact ⟨_, inside, Or.inl found⟩
        | member inside found => exact ⟨_, inside, Or.inr ((ih _ inside).mpr found)⟩
  | null | bool _ | number _ | str _ =>
      exact iff_of_false (by rw [containsForbiddenResponseKey] <;> simp) (by rintro ⟨⟩)

end Content

/-- The text is JSON within the bounds of the runtime, and this is its parse tree. -/
structure Runtime.Reads (runtime : Runtime) (responseText : String) (tree : Content) : Prop where
  bytes : (Chars.encode responseText.scalars).length ≤ runtime.maximumResponseBytes
  depth : jsonNestingExceeds runtime.maximumJsonDepth 0 false false responseText.scalars = false
  valid : readTree responseText = .ok tree

/-- The evaluation reports that the response is blocked. -/
def Runtime.Blocks (runtime : Runtime) (order : Content.SetOrder) (responseText : String)
    (inputs : EvaluationInputs) : Prop :=
  ∃ findings, runtime.evaluate order responseText inputs = .ok findings ∧
    ∃ finding ∈ findings, finding.state = .securityBlocked

theorem evaluate_of_reads {runtime : Runtime} {order : Content.SetOrder} {responseText : String}
    {tree : Content} {inputs : EvaluationInputs} (reads : runtime.Reads responseText tree) :
    runtime.evaluate order responseText inputs = evaluateDecoded order tree.loaded inputs := by
  have decoded : loads responseText = .ok tree.loaded := by
    rw [loads, reads.valid]
    rfl
  rw [Runtime.evaluate, require_of reads.bytes, ok_bind, require_of reads.depth, ok_bind, decoded]

/-- Only the names of the decoded value block it. -/
theorem evaluateDecoded_blocked {order : Content.SetOrder} {decoded : Content} {inputs : EvaluationInputs}
    {contract : List ValidationFinding} (security : "SECURITY" ∈ inputs.requiredDimensions)
    (computed : contractFindings order decoded inputs = .ok contract)
    (others : ∀ finding ∈ contract, finding.state ≠ .securityBlocked) :
    ∃ findings, evaluateDecoded order decoded inputs = .ok findings ∧
      ((∃ finding ∈ findings, finding.state = .securityBlocked) ↔
        decoded.containsForbiddenResponseKey = true) := by
  obtain ⟨findings, done⟩ : ∃ findings, evaluateDecoded order decoded inputs = .ok findings :=
    ⟨_, by rw [evaluateDecoded, computed, ok_bind]⟩
  have silent : ¬∃ finding ∈ contract, finding.state = .securityBlocked := by
    rintro ⟨finding, inside, same⟩
    exact others finding inside same
  refine ⟨findings, done, ?_⟩
  rw [evaluateDecoded_reports computed done (by decide) (by decide)]
  simp [security, silent]

theorem fmap_ok {ε α β : Type} {first : Except ε α} {f : α → β} {result : β} :
    (f <$> first) = .ok result ↔ ∃ value, first = .ok value ∧ f value = result := by
  cases first with
  | error exn => exact iff_of_false nofun nofun
  | ok value =>
      constructor
      · intro same
        cases same
        exact ⟨value, rfl, rfl⟩
      · intro ⟨other, same, image⟩
        cases same
        exact congrArg Except.ok image

theorem contractFindings_states {order : Content.SetOrder} {decoded : Content} {inputs : EvaluationInputs}
    {contract : List ValidationFinding} (computed : contractFindings order decoded inputs = .ok contract) :
    ∀ finding ∈ contract, finding.state ≠ .securityBlocked := by
  intro finding inside
  unfold contractFindings at computed
  split at computed
  · obtain ⟨invalid, -, rfl⟩ := fmap_ok.mp computed
    intro same
    cases (found_state.mp ⟨finding, inside, same⟩).2
  · cases computed
    cases inside

theorem blocks_iff {runtime : Runtime} {order : Content.SetOrder} {responseText : String} {tree : Content}
    {inputs : EvaluationInputs} (reads : runtime.Reads responseText tree)
    (security : "SECURITY" ∈ inputs.requiredDimensions) :
    runtime.Blocks order responseText inputs ↔ tree.Exposed ForbiddenName ∧
      ∃ contract, contractFindings order tree.loaded inputs = .ok contract := by
  rw [Runtime.Blocks, evaluate_of_reads reads, ← Content.named_loaded, ← Content.containsForbidden_iff]
  cases computed : contractFindings order tree.loaded inputs with
  | error fault =>
      refine iff_of_false ?_ ?_
      · rintro ⟨findings, done, -⟩
        rw [evaluateDecoded, computed, error_bind] at done
        cases done
      · rintro ⟨-, contract, same⟩
        cases same
  | ok contract =>
      obtain ⟨findings, done, blocked⟩ :=
        evaluateDecoded_blocked security computed (contractFindings_states computed)
      rw [← blocked, done]
      constructor
      · rintro ⟨others, same, found⟩
        cases same
        exact ⟨found, contract, rfl⟩
      · rintro ⟨found, -⟩
        exact ⟨findings, rfl, found⟩

theorem contractFindings_ok {order : Content.SetOrder} {decoded : Content} {inputs : EvaluationInputs}
    (accepted : "OUTPUT_CONTRACT" ∈ inputs.requiredDimensions →
      Content.validateOutputContractSchema inputs.outputContract = .ok ()) :
    (∃ contract, contractFindings order decoded inputs = .ok contract) ↔
      ("OUTPUT_CONTRACT" ∈ inputs.requiredDimensions →
        Content.NullsLate order decoded inputs.outputContract) := by
  unfold contractFindings
  split
  · rename_i asked
    rw [← Content.outputContractInvalid_ok (accepted asked)]
    constructor
    · intro ⟨contract, computed⟩ _
      obtain ⟨invalid, answer, -⟩ := fmap_ok.mp computed
      exact ⟨invalid, answer⟩
    · intro answered
      obtain ⟨invalid, answer⟩ := answered asked
      exact ⟨_, fmap_ok.mpr ⟨invalid, answer, rfl⟩⟩
  · rename_i unasked
    exact iff_of_true ⟨_, rfl⟩ fun asked => absurd asked unasked

/-- A response with a forbidden name anywhere in its text is blocked just where such a name stands
in no replaced member and, if the contract is asked for, no null keyword of it is come across
before a violated one. -/
theorem forbidden_name_blocked (runtime : Runtime) (order : Content.SetOrder) (responseText : String)
    (tree : Content) (inputs : EvaluationInputs) (reads : runtime.Reads responseText tree)
    (security : "SECURITY" ∈ inputs.requiredDimensions)
    (accepted : "OUTPUT_CONTRACT" ∈ inputs.requiredDimensions →
      Content.validateOutputContractSchema inputs.outputContract = .ok ()) :
    (tree.Named ForbiddenName → runtime.Blocks order responseText inputs) ↔
      (tree.Named ForbiddenName → tree.Exposed ForbiddenName ∧
        ("OUTPUT_CONTRACT" ∈ inputs.requiredDimensions →
          Content.NullsLate order tree.loaded inputs.outputContract)) := by
  rw [blocks_iff reads security, contractFindings_ok accepted]

def sampleRuntime : Runtime := ⟨1048576, 64, by decide⟩

/-- The security and an empty contract are asked for. -/
def securityInputs : EvaluationInputs :=
  ⟨⟨[], [], []⟩, .object [], [], [], ["SECURITY", "OUTPUT_CONTRACT"]⟩

theorem empty_accepted : Content.validateOutputContractSchema (.object []) = .ok () := by
  rw [Content.validateOutputContractSchema.eq_def]
  rfl

theorem empty_late (order : Content.SetOrder) (value : Content) :
    Content.NullsLate order value (.object []) := by
  refine Content.nullsLate_of_no_null fun item sub reached keyword _ => ?_
  cases reached with
  | here => exact nofun
  | step child _ =>
      cases child with
      | property named _ => cases named
      | additional others _ _ => cases others
      | item each _ => cases each

/-- A member that is replaced, a name that is half of a pair, and a forbidden name. -/
def exposedTree : Content := .object [("a", .object [("tools", .number (.int 1))]), ("a", .number (.int 0)),
  ([0xD800], .number (.int 0)), ("Tools", .number (.int 1))]

theorem forbidden_name_blocked_sample : sampleRuntime.Blocks sameOrder
    "\x7b\"a\": \x7b\"tools\": 1\x7d, \"a\": 0, \"\\ud800\": 0, \"Tools\": 1\x7d" securityInputs := by
  have forbidden : ForbiddenName ("Tools" : String) := by decide
  have inside : ((("Tools" : String) : Points), Content.number (.int 1)) ∈ ([("a", .object [("tools",
      .number (.int 1))]), ("a", .number (.int 0)), ([0xD800], .number (.int 0)),
      ("Tools", .number (.int 1))] : List (Points × Content)) :=
    List.mem_cons_of_mem _ (List.mem_cons_of_mem _ (List.mem_cons_of_mem _ List.mem_cons_self))
  exact (forbidden_name_blocked sampleRuntime sameOrder _ exposedTree securityInputs
    ⟨by decide, by decide, rfl⟩ (by decide) fun _ => empty_accepted).mpr
    (fun _ => ⟨.name inside forbidden, fun _ => empty_late sameOrder _⟩) (.name inside forbidden)

/-- The value of a replaced member holds a forbidden name, and the response is not blocked. -/
theorem forbidden_name_blocked_fails : ¬∀ (runtime : Runtime) (order : Content.SetOrder)
    (responseText : String) (tree : Content) (inputs : EvaluationInputs), runtime.Reads responseText tree →
    "SECURITY" ∈ inputs.requiredDimensions →
    ("OUTPUT_CONTRACT" ∈ inputs.requiredDimensions →
      Content.validateOutputContractSchema inputs.outputContract = .ok ()) →
    tree.Named ForbiddenName → runtime.Blocks order responseText inputs := by
  intro claim
  have reads : sampleRuntime.Reads "\x7b\"a\": \x7b\"tools\": 1\x7d, \"a\": 0\x7d"
      (.object [("a", .object [("tools", .number (.int 1))]), ("a", .number (.int 0))]) :=
    ⟨by decide, by decide, rfl⟩
  have forbidden : ForbiddenName ("tools" : String) := by decide
  have allowed : ¬ForbiddenName ("a" : String) := by decide
  have blocked := claim sampleRuntime sameOrder _ _ securityInputs reads (by decide) (fun _ => empty_accepted)
    (.member (List.mem_cons_self) (.name List.mem_cons_self forbidden))
  obtain ⟨exposed, -⟩ := (blocks_iff reads (by decide)).mp blocked
  cases exposed with
  | name inside found =>
      rcases List.mem_cons.mp inside with same | inside
      · cases same
        exact allowed found
      · cases List.mem_singleton.mp inside
        exact allowed found
  | @member _ key _ last found =>
      change (if _ = key then _ else if _ = key then _ else none) = some _ at last
      split at last
      · cases last
        cases found
      · cases last

end Hunter.ResponseValidator
