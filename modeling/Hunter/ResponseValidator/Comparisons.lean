import Mathlib
import Hunter.ResponseValidator.Contract

/-!
The keywords of an output contract as comparisons of the values at its positions. Of an accepted
contract the second traversal makes them one after another, up to the first that is violated. A
keyword that is null passes the validation of the contract, and a comparison with it has no answer.
-/

namespace Hunter.ResponseValidator

open Fallible

namespace Content

/-- The keywords of JSON Schema other than the type and the schemas of members and items. -/
inductive Keyword where
  | enum | const | required | closed | minItems | maxItems | minLength | maxLength
  | minimum | maximum | exclusiveMinimum | exclusiveMaximum

def Keyword.name : Keyword → Points
  | .enum => "enum"
  | .const => "const"
  | .required => "required"
  | .closed => "additionalProperties"
  | .minItems => "minItems"
  | .maxItems => "maxItems"
  | .minLength => "minLength"
  | .maxLength => "maxLength"
  | .minimum => "minimum"
  | .maximum => "maximum"
  | .exclusiveMinimum => "exclusiveMinimum"
  | .exclusiveMaximum => "exclusiveMaximum"

/-- What JSON Schema asks of a value by itself. -/
def Meets (value schema : Content) : Keyword → Prop
  | .enum => ∀ options, schema.get? "enum" = some (.list options) → ∃ option ∈ options, Equal value option
  | .const => ∀ constant, schema.get? "const" = some constant → Equal value constant
  | .required => ∀ fields names, value = .object fields → schema.get? "required" = some (.list names) →
      ∀ name, .str name ∈ names → (Dict.find name fields).isSome
  | .closed => ∀ fields, value = .object fields →
      schema.get? "additionalProperties" = some (.bool false) →
      ∀ field ∈ fields, field.1 ∈ schema.properties.map Prod.fst
  | .minItems => ∀ items limit, value = .list items → schema.get? "minItems" = some (.number limit) →
      limit.value ≤ items.length
  | .maxItems => ∀ items limit, value = .list items → schema.get? "maxItems" = some (.number limit) →
      items.length ≤ limit.value
  | .minLength => ∀ text limit, value = .str text → schema.get? "minLength" = some (.number limit) →
      limit.value ≤ text.length
  | .maxLength => ∀ text limit, value = .str text → schema.get? "maxLength" = some (.number limit) →
      text.length ≤ limit.value
  | .minimum => ∀ n limit, value = .number n → schema.get? "minimum" = some (.number limit) →
      limit.value ≤ n.value
  | .maximum => ∀ n limit, value = .number n → schema.get? "maximum" = some (.number limit) →
      n.value ≤ limit.value
  | .exclusiveMinimum => ∀ n limit, value = .number n →
      schema.get? "exclusiveMinimum" = some (.number limit) → limit.value < n.value
  | .exclusiveMaximum => ∀ n limit, value = .number n →
      schema.get? "exclusiveMaximum" = some (.number limit) → n.value < limit.value

/-- The value satisfies the schema, at every depth. -/
inductive Satisfies : (value schema : Content) → Prop
  | intro {value schema : Content}
      (typed : ∀ name, schema.keyword "type" = some (.str name) → HasType value name)
      (keywords : ∀ keyword, Meets value schema keyword)
      (children : ∀ item sub, Child value schema item sub → Satisfies item sub) : Satisfies value schema

/-- The keywords that a value is compared with, in the order in which this is done. -/
def compared : Content → List Keyword
  | .object _ => [.enum, .const, .required, .closed]
  | .list _ => [.enum, .const, .minItems, .maxItems]
  | .str _ => [.enum, .const, .minLength, .maxLength]
  | .number _ => [.enum, .const, .minimum, .maximum, .exclusiveMinimum, .exclusiveMaximum]
  | _ => [.enum, .const]

/-- The keyword is an enumeration or a bound, for which null is no value. -/
def Keyword.bounding : Keyword → Bool
  | .const | .required | .closed => false
  | _ => true

/-- A comparison of a value with a keyword of its schema. -/
structure Comparison where
  value : Content
  schema : Content
  keyword : Keyword

namespace Comparison

/-- The enumeration or bound is null. -/
def IsNull (comparison : Comparison) : Prop :=
  comparison.keyword.bounding = true ∧ comparison.schema.get? comparison.keyword.name = some .null

def Violated (comparison : Comparison) : Prop :=
  ¬Meets comparison.value comparison.schema comparison.keyword

end Comparison

/-- The comparisons of the positions that are gone through, in their order. -/
def comparisons (order : SetOrder) (value schema : Content) : List Comparison :=
  (visits order value schema).flatMap fun position =>
    (compared position.1).map fun keyword => ⟨position.1, position.2, keyword⟩

/-- No null keyword is come across before a violated one. -/
def NullsLate (order : SetOrder) (value schema : Content) : Prop :=
  Late Comparison.IsNull Comparison.Violated (comparisons order value schema)

theorem wrongType_eq_false {value schema : Content} (accepted : Accepted schema) :
    wrongType value schema = false ↔
      ∀ name, schema.keyword "type" = some (.str name) → HasType value name := by
  unfold wrongType
  split
  · rename_i absent
    exact iff_of_true rfl fun name found => by cases absent.symm.trans found
  · rename_i name found
    rw [Bool.not_eq_false', matchesJsonType_iff]
    constructor
    · intro typed other found'
      cases found.symm.trans found'
      exact typed
    · exact fun all => all name found
  · rename_i declared textless found
    obtain ⟨name, rfl⟩ := accepted.type_ declared found
    exact absurd rfl (textless name)

/-- The conditions that a keyword stands for. -/
def checks (value schema : Content) (keyword : Keyword) : List (Except Fault Bool) :=
  match keyword, value with
  | .enum, _ => enumChecks value schema
  | .const, _ => constChecks value schema
  | .required, .object fields => requiredChecks fields schema
  | .closed, .object fields => closedChecks fields schema
  | .minItems, .list items => schema.boundChecks "minItems" fun bound => (items.length : ℚ) < bound
  | .maxItems, .list items => schema.boundChecks "maxItems" fun bound => bound < (items.length : ℚ)
  | .minLength, .str text => schema.boundChecks "minLength" fun bound => (text.length : ℚ) < bound
  | .maxLength, .str text => schema.boundChecks "maxLength" fun bound => bound < (text.length : ℚ)
  | .minimum, .number n => schema.boundChecks "minimum" fun bound => n.value < bound
  | .maximum, .number n => schema.boundChecks "maximum" fun bound => bound < n.value
  | .exclusiveMinimum, .number n => schema.boundChecks "exclusiveMinimum" fun bound => n.value ≤ bound
  | .exclusiveMaximum, .number n => schema.boundChecks "exclusiveMaximum" fun bound => bound ≤ n.value
  | _, _ => []

theorem keywordChecks_eq (value schema : Content) :
    keywordChecks value schema = (compared value).flatMap (checks value schema) := by
  cases value with
  | object fields | list items | str text | number n =>
      simp [keywordChecks, compared, checks, lengthChecks, numberChecks]
  | _ => simp [keywordChecks, compared, checks]

/-- The second traversal makes the comparisons one after another. -/
theorem outputContractInvalid_comparisons (order : SetOrder) (value schema : Content) :
    outputContractInvalid order value schema =
      ((comparisons order value schema).flatMap fun comparison =>
        checks comparison.value comparison.schema comparison.keyword).anyM id := by
  rw [outputContractInvalid_eq, comparisons, List.flatMap_assoc]
  simp only [keywordChecks_eq, List.flatMap_map]

/-- No condition of the list holds. -/
def Clear (conditions : List (Except Fault Bool)) : Prop := .ok true ∉ conditions

theorem clear_singleton {b : Bool} : Clear [.ok b] ↔ b = false := by
  cases b <;> simp [Clear]

theorem enum_clear {value schema : Content} (accepted : Accepted schema) :
    Clear (enumChecks value schema) ↔
      ∀ options, schema.get? "enum" = some (.list options) → ∃ option ∈ options, Equal value option := by
  unfold enumChecks
  split
  · rename_i absent
    exact iff_of_true List.not_mem_nil fun options found => by cases absent.symm.trans found
  · rename_i given found
    by_cases null : given = .null
    · subst null
      refine iff_of_true (fun holds => ?_) fun options found' => by cases found.symm.trans found'
      exact absurd (List.mem_singleton.mp holds) nofun
    · obtain ⟨options, rfl⟩ := accepted.enum given (keyword_eq_some.mpr ⟨found, null⟩)
      rw [iterated, Except.map, clear_singleton, Bool.not_eq_false', List.any_eq_true]
      constructor
      · intro ⟨option, inside, equal⟩ others found'
        cases found.symm.trans found'
        exact ⟨option, inside, jsonValuesEqual_iff.mp equal⟩
      · intro all
        obtain ⟨option, inside, equal⟩ := all options found
        exact ⟨option, inside, jsonValuesEqual_iff.mpr equal⟩

theorem const_clear {value schema : Content} : Clear (constChecks value schema) ↔
    ∀ constant, schema.get? "const" = some constant → Equal value constant := by
  unfold constChecks
  split
  · rename_i absent
    exact iff_of_true List.not_mem_nil fun constant found => by cases absent.symm.trans found
  · rename_i constant found
    rw [clear_singleton, Bool.not_eq_false', jsonValuesEqual_iff]
    constructor
    · intro equal other found'
      cases found.symm.trans found'
      exact equal
    · exact fun all => all constant found

theorem required_clear {fields : List (Points × Content)} {schema : Content} (accepted : Accepted schema) :
    Clear (requiredChecks fields schema) ↔ ∀ names, schema.get? "required" = some (.list names) →
      ∀ name, .str name ∈ names → (Dict.find name fields).isSome := by
  unfold requiredChecks
  split
  · rename_i names found
    constructor
    · intro clear others found' name inside
      cases found.symm.trans found'
      by_contra absent
      refine clear (List.mem_map.mpr ⟨.str name, inside, ?_⟩)
      rw [missing, Option.isNone_iff_eq_none.mpr (Option.not_isSome_iff_eq_none.mp absent)]
    · intro all holds
      obtain ⟨item, inside, missed⟩ := List.mem_map.mp holds
      obtain ⟨name, rfl⟩ := accepted.required names found item inside
      have here := all names found name inside
      rw [missing, Except.ok.injEq, Option.isNone_iff_eq_none] at missed
      rw [missed] at here
      cases here
  · rename_i absent
    exact iff_of_true List.not_mem_nil fun names found => absurd found (absent names)

theorem closed_clear {fields : List (Points × Content)} {schema : Content} :
    Clear (closedChecks fields schema) ↔ (schema.get? "additionalProperties" = some (.bool false) →
      ∀ field ∈ fields, field.1 ∈ schema.properties.map Prod.fst) := by
  unfold closedChecks
  split
  · rename_i found
    rw [clear_singleton, decide_eq_false_iff_not, not_not, extra, List.filter_eq_nil_iff]
    constructor
    · exact fun none _ field inside => not_not.mp fun unnamed => none field inside (decide_eq_true unnamed)
    · exact fun all field inside unnamed => of_decide_eq_true unnamed (all found field inside)
  · rename_i absent
    exact iff_of_true List.not_mem_nil fun found => absurd found absent

theorem bound_clear {schema : Content} (accepted : Accepted schema) {name : String}
    (known : name ∈ bounds) {beyond : ℚ → Bool} :
    Clear (schema.boundChecks name beyond) ↔
      ∀ limit, schema.get? name = some (.number limit) → beyond limit.value = false := by
  unfold boundChecks
  split
  · rename_i absent
    exact iff_of_true List.not_mem_nil fun limit found => by cases absent.symm.trans found
  · rename_i given found
    by_cases null : given = .null
    · subst null
      refine iff_of_true (fun holds => ?_) fun limit found' => by cases found.symm.trans found'
      exact absurd (List.mem_singleton.mp holds) nofun
    · obtain ⟨limit, rfl⟩ := accepted.bound name known given (keyword_eq_some.mpr ⟨found, null⟩)
      rw [arithmetic, Except.map, clear_singleton]
      constructor
      · intro inside other found'
        cases found.symm.trans found'
        exact inside
      · exact fun all => all limit found

/-- A bound for the values of a kind. -/
theorem meets_bound {α : Type} {kind : α → Content} (injective : kind.Injective) {x : α}
    {given : Number → Prop} {within : α → Number → Prop} :
    (∀ y limit, kind x = kind y → given limit → within y limit) ↔ ∀ limit, given limit → within x limit := by
  constructor
  · exact fun all limit => all x limit rfl
  · intro all y limit equal
    exact injective equal ▸ all limit

/-- What a value is compared with. Every bound is one condition on its limit. -/
inductive Asked (schema : Content) : (value : Content) → Keyword → Prop
  | enum {value : Content} : Asked schema value .enum
  | const {value : Content} : Asked schema value .const
  | required {fields : List (Points × Content)} : Asked schema (.object fields) .required
  | closed {fields : List (Points × Content)} : Asked schema (.object fields) .closed
  | bound {value : Content} {keyword : Keyword} {name : String} {beyond : ℚ → Bool} {within : Number → Prop}
      (known : name ∈ bounds) (bounding : keyword.bounding = true) (named : keyword.name = name)
      (checked : checks value schema keyword = schema.boundChecks name beyond)
      (meets : Meets value schema keyword ↔
        ∀ limit, schema.get? name = some (.number limit) → within limit)
      (same : ∀ limit : Number, beyond limit.value = false ↔ within limit) : Asked schema value keyword

theorem asked_of_compared {value schema : Content} {keyword : Keyword} (asked : keyword ∈ compared value) :
    Asked schema value keyword := by
  cases value with
  | object fields =>
      simp only [compared, List.mem_cons, List.not_mem_nil, or_false] at asked
      rcases asked with rfl | rfl | rfl | rfl
      · exact .enum
      · exact .const
      · exact .required
      · exact .closed
  | list items =>
      simp only [compared, List.mem_cons, List.not_mem_nil, or_false] at asked
      rcases asked with rfl | rfl | rfl | rfl
      · exact .enum
      · exact .const
      · exact .bound (by decide) rfl rfl rfl (meets_bound fun _ _ => list.inj) fun _ => by simp
      · exact .bound (by decide) rfl rfl rfl (meets_bound fun _ _ => list.inj) fun _ => by simp
  | str text =>
      simp only [compared, List.mem_cons, List.not_mem_nil, or_false] at asked
      rcases asked with rfl | rfl | rfl | rfl
      · exact .enum
      · exact .const
      · exact .bound (by decide) rfl rfl rfl (meets_bound fun _ _ => str.inj) fun _ => by simp
      · exact .bound (by decide) rfl rfl rfl (meets_bound fun _ _ => str.inj) fun _ => by simp
  | number n =>
      simp only [compared, List.mem_cons, List.not_mem_nil, or_false] at asked
      rcases asked with rfl | rfl | rfl | rfl | rfl | rfl
      · exact .enum
      · exact .const
      · exact .bound (by decide) rfl rfl rfl (meets_bound fun _ _ => number.inj) fun _ => by simp
      · exact .bound (by decide) rfl rfl rfl (meets_bound fun _ _ => number.inj) fun _ => by simp
      · exact .bound (by decide) rfl rfl rfl (meets_bound fun _ _ => number.inj) fun _ => by simp
      · exact .bound (by decide) rfl rfl rfl (meets_bound fun _ _ => number.inj) fun _ => by simp
  | null | bool b =>
      simp only [compared, List.mem_cons, List.not_mem_nil, or_false] at asked
      rcases asked with rfl | rfl
      · exact .enum
      · exact .const

/-- These two are compared with every value. -/
theorem always_compared (value : Content) : .enum ∈ compared value ∧ .const ∈ compared value := by
  cases value <;> simp [compared]

/-- A keyword for values of another kind asks nothing. -/
theorem meets_of_not_compared {value schema : Content} {keyword : Keyword}
    (absent : keyword ∉ compared value) : Meets value schema keyword := by
  cases keyword with
  | enum => exact absurd (always_compared value).1 absent
  | const => exact absurd (always_compared value).2 absent
  | closed =>
      intro fields same
      subst same
      exact absurd (by simp [compared]) absent
  | _ =>
      intro inner _ same
      subst same
      exact absurd (by simp [compared]) absent

theorem checks_of_not_compared {value schema : Content} {keyword : Keyword}
    (absent : keyword ∉ compared value) : checks value schema keyword = [] := by
  unfold checks
  split
  case h_1 => exact absurd (always_compared value).1 absent
  case h_2 => exact absurd (always_compared value).2 absent
  case h_13 => rfl
  all_goals exact absurd (by simp [compared]) absent

/-- No condition of a keyword holds just where the value meets it. -/
theorem checks_clear {value schema : Content} (accepted : Accepted schema) (keyword : Keyword) :
    Clear (checks value schema keyword) ↔ Meets value schema keyword := by
  by_cases asked : keyword ∈ compared value
  · cases @asked_of_compared value schema keyword asked with
    | enum => exact enum_clear accepted
    | const => exact const_clear
    | @required fields =>
        refine (required_clear accepted).trans ⟨fun all others names same => ?_, fun all => ?_⟩
        · cases same
          exact all names
        · exact fun names => all fields names rfl
    | @closed fields =>
        refine closed_clear.trans ⟨fun all others same => ?_, fun all => all fields rfl⟩
        cases same
        exact all
    | bound known _ _ checked meets same =>
        rw [checked, meets, bound_clear accepted known]
        exact forall_congr' fun limit => imp_congr_right fun _ => same limit
  · rw [checks_of_not_compared asked]
    exact iff_of_true List.not_mem_nil (meets_of_not_compared asked)

theorem mem_comparisons {order : SetOrder} {value schema : Content} {comparison : Comparison} :
    comparison ∈ comparisons order value schema ↔
      (comparison.value, comparison.schema) ∈ visits order value schema ∧
        comparison.keyword ∈ compared comparison.value := by
  rw [comparisons, List.mem_flatMap]
  constructor
  · intro ⟨position, visited, inside⟩
    obtain ⟨keyword, asked, rfl⟩ := List.mem_map.mp inside
    exact ⟨visited, asked⟩
  · intro ⟨visited, asked⟩
    exact ⟨_, visited, List.mem_map.mpr ⟨_, asked, rfl⟩⟩

theorem comparisons_met {order : SetOrder} {value schema : Content} (right : wrongType value schema = false) :
    (∀ comparison ∈ comparisons order value schema, ¬comparison.Violated) ↔
      (∀ keyword, Meets value schema keyword) ∧
        ∀ item sub, Child value schema item sub →
          ∀ comparison ∈ comparisons order item sub, ¬comparison.Violated := by
  constructor
  · intro met
    refine ⟨fun keyword => ?_, fun item sub child comparison inside => ?_⟩
    · by_cases asked : keyword ∈ compared value
      · exact not_not.mp (met ⟨value, schema, keyword⟩
          (mem_comparisons.mpr ⟨mem_visits.mpr ⟨right, Or.inl rfl⟩, asked⟩))
      · exact meets_of_not_compared asked
    · obtain ⟨visited, asked⟩ := mem_comparisons.mp inside
      exact met comparison
        (mem_comparisons.mpr ⟨mem_visits.mpr ⟨right, Or.inr ⟨item, sub, child, visited⟩⟩, asked⟩)
  · intro ⟨here, below⟩ comparison inside
    obtain ⟨visited, asked⟩ := mem_comparisons.mp inside
    rcases (mem_visits.mp visited).2 with same | ⟨item, sub, child, visited⟩
    · obtain ⟨sameValue, sameSchema⟩ := Prod.mk.inj same
      rw [Comparison.Violated, sameValue, sameSchema, not_not]
      exact here _
    · exact below item sub child comparison (mem_comparisons.mpr ⟨visited, asked⟩)

/-- The value satisfies the schema where no position has a wrong type and nothing is violated. -/
theorem satisfies_iff (order : SetOrder) (value schema : Content)
    (ok : validateOutputContractSchema schema = .ok ()) :
    Satisfies value schema ↔ schemaTypeInvalid value schema = false ∧
      ∀ comparison ∈ comparisons order value schema, ¬comparison.Violated := by
  have accepted := accepted_of_ok ok
  have below (item sub : Content) (child : Child value schema item sub) :
      Satisfies item sub ↔ schemaTypeInvalid item sub = false ∧
        ∀ comparison ∈ comparisons order item sub, ¬comparison.Violated := by
    have less := child.lt
    exact satisfies_iff order item sub (accepted.children value item sub child)
  constructor
  · intro satisfies
    obtain ⟨typed, keywords, children⟩ := satisfies
    have right := (wrongType_eq_false accepted).mpr typed
    constructor
    · rw [Bool.eq_false_iff, ne_eq, schemaTypeInvalid_child, not_or, Bool.not_eq_true]
      refine ⟨right, fun ⟨item, sub, child, invalid⟩ => ?_⟩
      rw [((below item sub child).mp (children item sub child)).1] at invalid
      cases invalid
    · refine (comparisons_met right).mpr ⟨keywords, fun item sub child => ?_⟩
      exact ((below item sub child).mp (children item sub child)).2
  · intro ⟨valid, met⟩
    rw [Bool.eq_false_iff, ne_eq, schemaTypeInvalid_child, not_or, Bool.not_eq_true] at valid
    obtain ⟨here, rest⟩ := (comparisons_met valid.1).mp met
    refine .intro ((wrongType_eq_false accepted).mp valid.1) here ?_
    intro item sub child
    refine (below item sub child).mpr ⟨?_, rest item sub child⟩
    exact Bool.eq_false_iff.mpr fun invalid => valid.2 ⟨item, sub, child, invalid⟩
termination_by sizeOf value

theorem enumChecks_error {value schema : Content} {fault : Fault} (accepted : Accepted schema)
    (raised : .error fault ∈ enumChecks value schema) : schema.get? "enum" = some .null := by
  unfold enumChecks at raised
  split at raised
  · cases raised
  · rename_i given found
    by_cases null : given = .null
    · rw [found, null]
    · obtain ⟨options, rfl⟩ := accepted.enum given (keyword_eq_some.mpr ⟨found, null⟩)
      cases List.mem_singleton.mp raised

theorem boundChecks_error {schema : Content} {fault : Fault} (accepted : Accepted schema) {name : String}
    (known : name ∈ bounds) {beyond : ℚ → Bool} (raised : .error fault ∈ schema.boundChecks name beyond) :
    schema.get? name = some .null := by
  unfold boundChecks at raised
  split at raised
  · cases raised
  · rename_i given found
    by_cases null : given = .null
    · rw [found, null]
    · obtain ⟨limit, rfl⟩ := accepted.bound name known given (keyword_eq_some.mpr ⟨found, null⟩)
      cases List.mem_singleton.mp raised

theorem constChecks_ok {value schema : Content} {fault : Fault} : .error fault ∉ constChecks value schema := by
  intro raised
  unfold constChecks at raised
  split at raised
  · cases raised
  · cases List.mem_singleton.mp raised

theorem requiredChecks_ok {fields : List (Points × Content)} {schema : Content} {fault : Fault}
    (accepted : Accepted schema) : .error fault ∉ requiredChecks fields schema := by
  intro raised
  unfold requiredChecks at raised
  split at raised
  · rename_i names found
    obtain ⟨item, inside, missed⟩ := List.mem_map.mp raised
    obtain ⟨name, rfl⟩ := accepted.required names found item inside
    cases missed
  · cases raised

theorem closedChecks_ok {fields : List (Points × Content)} {schema : Content} {fault : Fault} :
    .error fault ∉ closedChecks fields schema := by
  intro raised
  unfold closedChecks at raised
  split at raised
  · cases List.mem_singleton.mp raised
  · cases raised

/-- A condition of an accepted contract raises only for a keyword that is null. -/
theorem checks_error {value schema : Content} {keyword : Keyword} {fault : Fault} (accepted : Accepted schema)
    (asked : keyword ∈ compared value) (raised : .error fault ∈ checks value schema keyword) :
    keyword.bounding = true ∧ schema.get? keyword.name = some .null := by
  cases @asked_of_compared value schema keyword asked with
  | enum => exact ⟨rfl, enumChecks_error accepted raised⟩
  | const => exact absurd raised constChecks_ok
  | required => exact absurd raised (requiredChecks_ok accepted)
  | closed => exact absurd raised closedChecks_ok
  | bound known bounding named checked _ _ =>
      rw [checked] at raised
      rw [named]
      exact ⟨bounding, boundChecks_error accepted known raised⟩

theorem boundChecks_null {schema : Content} {name : String} {beyond : ℚ → Bool}
    (null : schema.get? name = some .null) : schema.boundChecks name beyond = [.error .typeError] := by
  rw [boundChecks, null]
  rfl

/-- A keyword that is null raises where the value is compared with it. -/
theorem checks_null {value schema : Content} {keyword : Keyword} (asked : keyword ∈ compared value)
    (bounding : keyword.bounding = true) (null : schema.get? keyword.name = some .null) :
    checks value schema keyword = [.error .typeError] := by
  cases @asked_of_compared value schema keyword asked with
  | const | required | closed => cases bounding
  | enum =>
      rw [checks, enumChecks, show schema.get? "enum" = some .null from null]
      rfl
  | bound _ _ named checked _ _ =>
      rw [named] at null
      rw [checked, boundChecks_null null]

theorem Reached.accepted {value schema item sub : Content} (reached : Reached value schema item sub)
    (ok : validateOutputContractSchema schema = .ok ()) : Accepted sub := by
  induction reached with
  | here => exact accepted_of_ok ok
  | step child rest ih => exact ih ((accepted_of_ok ok).children _ _ _ child)

theorem reached_of_visited {order : SetOrder} {value schema : Content} {position : Content × Content}
    (visited : position ∈ visits order value schema) : Reached value schema position.1 position.2 := by
  rcases (mem_visits.mp visited).2 with rfl | ⟨item, sub, child, rest⟩
  · exact .here
  · have less := child.lt
    exact .step child (reached_of_visited rest)
termination_by sizeOf value

theorem wrongType_iff {value schema : Content} (accepted : Accepted schema) :
    wrongType value schema = true ↔
      ∃ name, schema.keyword "type" = some (.str name) ∧ ¬HasType value name := by
  rw [← Bool.not_eq_false, wrongType_eq_false accepted]
  simp only [not_forall, exists_prop]

section Answer

variable {order : SetOrder} {value schema : Content}

theorem Comparison.accepted {comparison : Comparison} (inside : comparison ∈ comparisons order value schema)
    (ok : validateOutputContractSchema schema = .ok ()) : Accepted comparison.schema :=
  (reached_of_visited (mem_comparisons.mp inside).1).accepted ok

/-- The second traversal answers just where no null keyword comes before a violated one. -/
theorem outputContractInvalid_ok (ok : validateOutputContractSchema schema = .ok ()) :
    (∃ invalid, outputContractInvalid order value schema = .ok invalid) ↔ NullsLate order value schema := by
  rw [outputContractInvalid_comparisons]
  refine anyM_late (fun comparison inside null => ?_) (fun comparison inside other condition here => ?_)
    fun comparison inside => ?_
  · exact ⟨_, checks_null (mem_comparisons.mp inside).2 null.1 null.2⟩
  · cases condition with
    | ok answer => exact ⟨answer, rfl⟩
    | error fault =>
        exact absurd (checks_error (comparison.accepted inside ok) (mem_comparisons.mp inside).2 here) other
  · exact not_not.symm.trans (not_congr (checks_clear (comparison.accepted inside ok) comparison.keyword))

/-- An answer tells whether something is violated. -/
theorem outputContractInvalid_false (ok : validateOutputContractSchema schema = .ok ()) {invalid : Bool}
    (answer : outputContractInvalid order value schema = .ok invalid) :
    invalid = false ↔ ∀ comparison ∈ comparisons order value schema, ¬comparison.Violated := by
  rw [outputContractInvalid_comparisons] at answer
  cases invalid with
  | true =>
      obtain ⟨comparison, inside, holds⟩ := List.mem_flatMap.mp (anyM_true answer)
      refine iff_of_false nofun fun met => ?_
      exact (checks_clear (comparison.accepted inside ok) _).mpr (not_not.mp (met comparison inside)) holds
  | false =>
      refine iff_of_true rfl fun comparison inside violated => violated ?_
      refine (checks_clear (comparison.accepted inside ok) _).mp fun holds => ?_
      cases anyM_false.mp answer _ (List.mem_flatMap.mpr ⟨comparison, inside, holds⟩)

/-- A contract without a null keyword at a position that it reaches answers. -/
theorem nullsLate_of_no_null (present : ∀ item sub, Reached value schema item sub →
    ∀ keyword, Keyword.bounding keyword = true → sub.get? keyword.name ≠ some .null) :
    NullsLate order value schema :=
  late_of_none fun _ inside null =>
    present _ _ (reached_of_visited (mem_comparisons.mp inside).1) _ null.1 null.2

end Answer

end Content

theorem found_state {finding : ValidationFinding} {condition : Bool} {state : ValidationState} :
    (∃ other ∈ found finding condition, other.state = state) ↔ condition = true ∧ finding.state = state := by
  cases condition with
  | true => simp [found]
  | false => simp [found]

theorem append_state {first second : List ValidationFinding} {state : ValidationState} :
    (∃ finding ∈ first ++ second, finding.state = state) ↔
      (∃ finding ∈ first, finding.state = state) ∨ ∃ finding ∈ second, finding.state = state := by
  simp only [List.mem_append, or_and_right, exists_or]

theorem ReferenceFault.finding_state (fault : ReferenceFault) :
    fault.finding.state = .invalidEvidenceReferenceStructure ∨ fault.finding.state = .evidenceAmbiguous := by
  cases fault with
  | canonicalAmbiguous | responseAmbiguous => exact Or.inr rfl
  | _ => exact Or.inl rfl

theorem mem_orValid {findings : List ValidationFinding} {state : ValidationState} (invalid : state ≠ .valid) :
    (∃ finding ∈ orValid findings, finding.state = state) ↔ ∃ finding ∈ findings, finding.state = state := by
  cases findings with
  | nil =>
      refine iff_of_false (fun ⟨finding, inside, same⟩ => invalid ?_) (fun ⟨_, inside, _⟩ => nomatch inside)
      rw [← same, List.mem_singleton.mp inside]
      rfl
  | cons finding findings => exact Iff.rfl

section States

variable {order : Content.SetOrder} {decoded : Content} {inputs : EvaluationInputs}

/-- Each state is found by its own part of the evaluation only. -/
theorem evaluateDecoded_reports {contract findings : List ValidationFinding}
    (computed : contractFindings order decoded inputs = .ok contract)
    (done : evaluateDecoded order decoded inputs = .ok findings) {state : ValidationState}
    (invalid : state ≠ .valid)
    (unreferenced : state ≠ .invalidEvidenceReferenceStructure ∧ state ≠ .evidenceAmbiguous) :
    (∃ finding ∈ findings, finding.state = state) ↔
      (("SECURITY" ∈ inputs.requiredDimensions ∧ decoded.containsForbiddenResponseKey = true) ∧
        ValidationState.securityBlocked = state) ∨
      (("SCHEMA" ∈ inputs.requiredDimensions ∧ decoded.schemaTypeInvalid inputs.outputContract = true) ∧
        ValidationState.invalidSchema = state) ∨
      (∃ finding ∈ contract, finding.state = state) ∨
      (("LINEAGE" ∈ inputs.requiredDimensions ∧ responseLineageMatches decoded inputs.coordinates = false) ∧
        ValidationState.invalidLineage = state) ∨
      (("PARTIAL_RESPONSE" ∈ inputs.requiredDimensions ∧
          responseIsPartial decoded inputs.providerStatusMetadata = true) ∧
        ValidationState.partialResponse = state) := by
  have references : ¬∃ finding ∈ (if "EVIDENCE_REFERENCE_STRUCTURE" ∈ inputs.requiredDimensions then
      ((evidenceReferenceState decoded inputs.evidenceInputs).map ReferenceFault.finding).toList else []),
      finding.state = state := by
    rintro ⟨finding, reference, rfl⟩
    split at reference
    · obtain ⟨fault, -, rfl⟩ := Option.map_eq_some_iff.mp (Option.mem_toList.mp reference)
      exact fault.finding_state.elim unreferenced.1 unreferenced.2
    · cases reference
  rw [evaluateDecoded, computed, ok_bind] at done
  cases done
  rw [mem_orValid invalid]
  simp only [append_state, found_state, Bool.and_eq_true, decide_eq_true_iff, Bool.not_eq_true', references,
    or_false, or_assoc]
  rfl

/-- The states of the two dimensions are found by their own traversals only. -/
theorem evaluateDecoded_states (schema : "SCHEMA" ∈ inputs.requiredDimensions)
    (contract : "OUTPUT_CONTRACT" ∈ inputs.requiredDimensions) {invalid : Bool}
    (answer : Content.outputContractInvalid order decoded inputs.outputContract = .ok invalid) :
    ∃ findings, evaluateDecoded order decoded inputs = .ok findings ∧
      ((∃ finding ∈ findings, finding.state = .invalidSchema) ↔
        decoded.schemaTypeInvalid inputs.outputContract = true) ∧
      ((∃ finding ∈ findings, finding.state = .invalidOutputContract) ↔ invalid = true) := by
  have computed : contractFindings order decoded inputs = .ok (found contractInvalid invalid) := by
    rw [contractFindings, if_pos contract, answer]
    rfl
  obtain ⟨findings, done⟩ : ∃ findings, evaluateDecoded order decoded inputs = .ok findings :=
    ⟨_, by rw [evaluateDecoded, computed, ok_bind]⟩
  have own : contractInvalid.state = .invalidOutputContract := rfl
  refine ⟨findings, done, ?_, ?_⟩
  · rw [evaluateDecoded_reports computed done (by decide) (by decide), found_state, own]
    simp [schema]
  · rw [evaluateDecoded_reports computed done (by decide) (by decide), found_state, own]
    simp

theorem evaluateDecoded_raises {fault : Fault} (contract : "OUTPUT_CONTRACT" ∈ inputs.requiredDimensions)
    (raised : Content.outputContractInvalid order decoded inputs.outputContract = .error fault) :
    evaluateDecoded order decoded inputs = .error fault := by
  have computed : contractFindings order decoded inputs = .error fault := by
    rw [contractFindings, if_pos contract, raised]
    rfl
  rw [evaluateDecoded, computed, error_bind]

end States

/-- Of an accepted contract the evaluation finds neither a wrong type nor a violation just where
the response satisfies the contract, and a wrong type just where a position has one, if no null
keyword is come across before a violated one. -/
theorem contract_findings (order : Content.SetOrder) (decoded : Content) (inputs : EvaluationInputs)
    (accepted : Content.validateOutputContractSchema inputs.outputContract = .ok ())
    (schema : "SCHEMA" ∈ inputs.requiredDimensions)
    (contract : "OUTPUT_CONTRACT" ∈ inputs.requiredDimensions) :
    (∃ findings, evaluateDecoded order decoded inputs = .ok findings ∧
      ((∀ finding ∈ findings, finding.state ≠ .invalidSchema ∧ finding.state ≠ .invalidOutputContract) ↔
        Content.Satisfies decoded inputs.outputContract) ∧
      ((∃ finding ∈ findings, finding.state = .invalidSchema) ↔
        ∃ item sub, Content.Reached decoded inputs.outputContract item sub ∧
          ∃ name, sub.keyword "type" = some (.str name) ∧ ¬Content.HasType item name)) ↔
      Content.NullsLate order decoded inputs.outputContract := by
  rw [← Content.outputContractInvalid_ok accepted]
  constructor
  · intro ⟨findings, done, _⟩
    cases answer : Content.outputContractInvalid order decoded inputs.outputContract with
    | ok invalid => exact ⟨invalid, rfl⟩
    | error fault =>
        rw [evaluateDecoded_raises contract answer] at done
        cases done
  · intro ⟨invalid, answer⟩
    obtain ⟨findings, done, typed, kept⟩ := evaluateDecoded_states schema contract answer
    refine ⟨findings, done, ?_, ?_⟩
    · rw [Content.satisfies_iff order _ _ accepted, ← Content.outputContractInvalid_false accepted answer,
        ← Bool.not_eq_true, ← Bool.not_eq_true, ← typed, ← kept]
      constructor
      · intro none
        exact ⟨fun ⟨finding, inside, same⟩ => (none finding inside).1 same,
          fun ⟨finding, inside, same⟩ => (none finding inside).2 same⟩
      · intro ⟨schemas, contracts⟩ finding inside
        exact ⟨fun same => schemas ⟨finding, inside, same⟩, fun same => contracts ⟨finding, inside, same⟩⟩
    · rw [typed, Content.schemaTypeInvalid_iff]
      constructor
      · intro ⟨item, sub, reached, wrong⟩
        exact ⟨item, sub, reached, (Content.wrongType_iff (reached.accepted accepted)).mp wrong⟩
      · intro ⟨item, sub, reached, wrong⟩
        exact ⟨item, sub, reached, (Content.wrongType_iff (reached.accepted accepted)).mpr wrong⟩

/-- The inputs of a contract of bounds. -/
def contractInputs (contract : Content) : EvaluationInputs :=
  ⟨⟨[], [], []⟩, contract, [], [], ["SCHEMA", "OUTPUT_CONTRACT"]⟩

def sameOrder : Content.SetOrder := ⟨id, fun _ => .refl _⟩

/-- A minimum, and a maximum that is null. -/
def minimumContract : Content := .object [("minimum", .number (.int 0)), ("maximum", .null)]

theorem minimum_accepted : Content.validateOutputContractSchema minimumContract = .ok () := by
  rw [Content.validateOutputContractSchema.eq_def]
  rfl

theorem minimum_violated : ¬Content.Meets (.number (.int (-1))) minimumContract .minimum := by
  intro meets
  have bound := meets (.int (-1)) (.int 0) rfl rfl
  norm_num [Number.value] at bound

/-- The null maximum comes after the minimum, which a negative number violates. -/
theorem minimum_late : Content.NullsLate sameOrder (.number (.int (-1))) minimumContract := by
  have visited : Content.visits sameOrder (.number (.int (-1))) minimumContract =
      [(.number (.int (-1)), minimumContract)] := by
    rw [Content.visits.eq_def]
    rfl
  rw [Content.NullsLate, Content.comparisons, visited]
  refine late_cons.mpr ⟨?_, Or.inr (late_cons.mpr ⟨?_, Or.inr (late_cons.mpr ⟨?_, Or.inl minimum_violated⟩)⟩)⟩
  · rintro ⟨-, ⟨⟩⟩
  · rintro ⟨⟨⟩, -⟩
  · rintro ⟨-, ⟨⟩⟩

/-- The contract is violated, and no type of it is wrong. -/
theorem contract_findings_minimum : ∃ findings,
    evaluateDecoded sameOrder (.number (.int (-1))) (contractInputs minimumContract) = .ok findings ∧
      (∃ finding ∈ findings, finding.state = .invalidOutputContract) ∧
      ∀ finding ∈ findings, finding.state ≠ .invalidSchema := by
  obtain ⟨findings, done, satisfied, typed⟩ := (contract_findings sameOrder (.number (.int (-1)))
    (contractInputs minimumContract) minimum_accepted (by decide) (by decide)).mpr minimum_late
  have schemas : ∀ finding ∈ findings, finding.state ≠ .invalidSchema := by
    intro finding inside same
    obtain ⟨item, sub, reached, name, declared, -⟩ := typed.mp ⟨finding, inside, same⟩
    cases reached with
    | here => cases declared
    | step child _ => cases child
  refine ⟨findings, done, ?_, schemas⟩
  by_contra none
  have kept := satisfied.mp fun finding inside => ⟨schemas finding inside, fun same => none ⟨finding, inside, same⟩⟩
  cases kept with
  | intro _ keywords _ => exact minimum_violated (keywords .minimum)

/-- A contract whose minimum is null is accepted, and no number is evaluated against it. -/
theorem null_minimum_raises : ¬∀ (order : Content.SetOrder) (decoded : Content) (inputs : EvaluationInputs),
    Content.validateOutputContractSchema inputs.outputContract = .ok () →
    "SCHEMA" ∈ inputs.requiredDimensions → "OUTPUT_CONTRACT" ∈ inputs.requiredDimensions →
    ∃ findings, evaluateDecoded order decoded inputs = .ok findings ∧
      ((∀ finding ∈ findings, finding.state ≠ .invalidSchema ∧ finding.state ≠ .invalidOutputContract) ↔
        Content.Satisfies decoded inputs.outputContract) := by
  intro claim
  have accepted : Content.validateOutputContractSchema (.object [("minimum", .null)]) = .ok () := by
    rw [Content.validateOutputContractSchema.eq_def]
    rfl
  obtain ⟨findings, done, -⟩ := claim sameOrder (.number (.int 1))
    (contractInputs (.object [("minimum", .null)])) accepted (by decide) (by decide)
  have raised : Content.outputContractInvalid sameOrder (.number (.int 1)) (.object [("minimum", .null)]) =
      .error .typeError := by
    rw [Content.outputContractInvalid.eq_def]
    rfl
  rw [evaluateDecoded_raises (by decide) raised] at done
  cases done

end Hunter.ResponseValidator
