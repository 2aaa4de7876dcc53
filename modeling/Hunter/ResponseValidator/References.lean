import Mathlib
import Hunter.ResponseValidator.Comparisons

/-!
The verdict on the evidence references of a response, against the violations that the list of
references holds. The scan reports the first violation it meets. Where two references give one
span different hashes, one of them is not canonical either, so the order of the list decides
which of two states is reported. Inputs with two hashes for a span are reported before the list
is looked at.
-/

namespace Hunter.ResponseValidator

open Fallible

/-- The hash is the only one of its span. -/
def CanonicalPair (evidenceInputs : List (Points × Points)) (spanId contentHash : Points) : Prop :=
  (spanId, contentHash) ∈ evidenceInputs ∧
    ∀ other, (spanId, other) ∈ evidenceInputs → other = contentHash

/-- No span of the inputs has two hashes. -/
def Unambiguous (evidenceInputs : List (Points × Points)) : Prop :=
  ∀ spanId a b, (spanId, a) ∈ evidenceInputs → (spanId, b) ∈ evidenceInputs → a = b

/-- A well formed reference of the list. -/
def Referred (references : List Content) (spanId contentHash : Points) : Prop :=
  ∃ reference ∈ references, referenceOf reference = .ok (spanId, contentHash)

/-- Two well formed references give one span different hashes. -/
def Conflicting (references : List Content) : Prop :=
  ∃ spanId a b, a ≠ b ∧ Referred references spanId a ∧ Referred references spanId b

/-- The state of a violation that the list of references holds. -/
inductive Violation (evidenceInputs : List (Points × Points)) (references : List Content) :
    ValidationState → Prop
  | malformed {reference : Content} {fault : ReferenceFault} (inside : reference ∈ references)
      (refused : referenceOf reference = .error fault) :
      Violation evidenceInputs references .invalidEvidenceReferenceStructure
  | ambiguous (conflicting : Conflicting references) :
      Violation evidenceInputs references .evidenceAmbiguous
  | mismatch {spanId contentHash : Points} (referred : Referred references spanId contentHash)
      (other : ¬CanonicalPair evidenceInputs spanId contentHash) :
      Violation evidenceInputs references .invalidEvidenceReferenceStructure

/-- The state of highest precedence among some. -/
def Highest (states : ValidationState → Prop) (state : ValidationState) : Prop :=
  states state ∧ ∀ other, states other → state.rank ≤ other.rank

theorem mem_canonicalHashes {evidenceInputs : List (Points × Points)} {spanId contentHash : Points} :
    contentHash ∈ canonicalHashes evidenceInputs spanId ↔ (spanId, contentHash) ∈ evidenceInputs := by
  rw [canonicalHashes, List.mem_dedup, List.mem_map]
  constructor
  · intro ⟨input, inside, same⟩
    obtain ⟨member, span⟩ := List.mem_filter.mp inside
    rwa [← of_decide_eq_true span, ← same]
  · intro inside
    exact ⟨_, List.mem_filter.mpr ⟨inside, decide_eq_true rfl⟩, rfl⟩

theorem canonicalHashes_eq {evidenceInputs : List (Points × Points)} {spanId contentHash : Points} :
    canonicalHashes evidenceInputs spanId = [contentHash] ↔
      CanonicalPair evidenceInputs spanId contentHash := by
  constructor
  · intro single
    refine ⟨mem_canonicalHashes.mp (single ▸ List.mem_singleton_self _), fun other inside => ?_⟩
    exact List.mem_singleton.mp (single ▸ mem_canonicalHashes.mpr inside)
  · intro ⟨inside, only⟩
    have nodup : (canonicalHashes evidenceInputs spanId).Nodup := List.nodup_dedup _
    refine List.perm_singleton.mp ((List.perm_ext_iff_of_nodup nodup (List.nodup_singleton _)).mpr ?_)
    intro other
    rw [mem_canonicalHashes, List.mem_singleton]
    exact ⟨only other, fun same => same ▸ inside⟩

theorem unambiguous_iff {evidenceInputs : List (Points × Points)} :
    (evidenceInputs.any fun input => (canonicalHashes evidenceInputs input.1).length ≠ 1) = false ↔
      Unambiguous evidenceInputs := by
  rw [List.any_eq_false]
  constructor
  · intro single spanId a b first second
    have length := single _ first
    rw [decide_eq_true_iff, not_not] at length
    obtain ⟨only, same⟩ := List.length_eq_one_iff.mp length
    have here := mem_canonicalHashes.mpr first
    have there := mem_canonicalHashes.mpr second
    rw [same] at here there
    exact (List.mem_singleton.mp here).trans (List.mem_singleton.mp there).symm
  · intro unambiguous input inside
    rw [decide_eq_true_iff, not_not, canonicalHashes_eq.mpr ⟨inside, fun other member =>
      unambiguous _ _ _ member inside⟩]
    rfl

/-- A reference is well formed and canonical. -/
def Conforms (evidenceInputs : List (Points × Points)) (reference : Content) : Prop :=
  ∃ spanId contentHash, referenceOf reference = .ok (spanId, contentHash) ∧
    CanonicalPair evidenceInputs spanId contentHash

section Scan

variable {evidenceInputs seen : List (Points × Points)} {references : List Content}

theorem referencesState_none (canonical : ∀ pair ∈ seen, CanonicalPair evidenceInputs pair.1 pair.2) :
    referencesState evidenceInputs seen references = none ↔
      ∀ reference ∈ references, Conforms evidenceInputs reference := by
  induction references generalizing seen with
  | nil => exact iff_of_true rfl fun _ inside => absurd inside List.not_mem_nil
  | cons reference references ih =>
      rw [referencesState, List.forall_mem_cons]
      cases read : referenceOf reference with
      | error fault =>
          refine iff_of_false nofun fun ⟨⟨spanId, contentHash, formed, _⟩, _⟩ => ?_
          cases read.symm.trans formed
      | ok pair =>
          obtain ⟨spanId, contentHash⟩ := pair
          dsimp only
          have conforms : Conforms evidenceInputs reference ↔
              CanonicalPair evidenceInputs spanId contentHash := by
            constructor
            · intro ⟨other, hash, formed, pair⟩
              cases read.symm.trans formed
              exact pair
            · exact fun pair => ⟨spanId, contentHash, read, pair⟩
          rw [conforms]
          split
          · rename_i conflict
            obtain ⟨other, inside, differ⟩ := List.any_eq_true.mp conflict
            obtain ⟨span, hash⟩ := Bool.and_eq_true_iff.mp differ
            refine iff_of_false nofun fun ⟨pair, _⟩ => of_decide_eq_true hash ?_
            exact pair.2 _ (of_decide_eq_true span ▸ (canonical other inside).1)
          · split
            · rename_i mismatch
              exact iff_of_false nofun fun ⟨pair, _⟩ => mismatch (canonicalHashes_eq.mpr pair)
            · rename_i single
              have pair := canonicalHashes_eq.mp (not_not.mp single)
              rw [ih (List.forall_mem_cons.mpr ⟨pair, canonical⟩)]
              exact (and_iff_right pair).symm

/-- What the scan reports is a violation: of its own state, or two hashes of one span. -/
theorem referencesState_some {fault : ReferenceFault}
    (found : referencesState evidenceInputs seen references = some fault) :
    fault.finding.state = .invalidEvidenceReferenceStructure ∨
      fault.finding.state = .evidenceAmbiguous ∧ ∃ spanId a b, a ≠ b ∧
        ((spanId, a) ∈ seen ∨ Referred references spanId a) ∧ Referred references spanId b := by
  induction references generalizing seen with
  | nil => cases found
  | cons reference references ih =>
      rw [referencesState] at found
      cases read : referenceOf reference with
      | error refused =>
          rw [read] at found
          cases found
          refine Or.inl ?_
          unfold referenceOf at read
          split at read
          · split at read
            · cases read
              rfl
            · split at read
              · split at read
                · cases read
                  rfl
                · cases read
              · cases read
                rfl
          · cases read
            rfl
      | ok pair =>
          obtain ⟨spanId, contentHash⟩ := pair
          have here : Referred (reference :: references) spanId contentHash :=
            ⟨reference, List.mem_cons_self, read⟩
          have later (span hash : Points) (referred : Referred references span hash) :
              Referred (reference :: references) span hash := by
            obtain ⟨other, inside, formed⟩ := referred
            exact ⟨other, List.mem_cons_of_mem _ inside, formed⟩
          rw [read] at found
          dsimp only at found
          split at found
          · rename_i conflict
            cases found
            obtain ⟨other, inside, differ⟩ := List.any_eq_true.mp conflict
            obtain ⟨span, hash⟩ := Bool.and_eq_true_iff.mp differ
            refine Or.inr ⟨rfl, spanId, other.2, contentHash, of_decide_eq_true hash, Or.inl ?_, here⟩
            rwa [← of_decide_eq_true span]
          · split at found
            · cases found
              exact Or.inl rfl
            · refine (ih found).imp_right fun ⟨state, span, a, b, differ, first, second⟩ => ?_
              refine ⟨state, span, a, b, differ, ?_, later span b second⟩
              rcases first with inside | referred
              · rcases List.mem_cons.mp inside with same | inside
                · cases same
                  exact Or.inr here
                · exact Or.inl inside
              · exact Or.inr (later span a referred)

end Scan

/-- The response with another list of references. -/
def withReferences (references : List Content) (fields : List (Points × Content)) :
    List (Points × Content) :=
  fields.map fun field : Points × Content =>
    if field.1 = ("evidence_references" : Points) then (field.1, .list references) else field

/-- The responses that differ in the order of their references only. -/
inductive Rearranged (fields : List (Points × Content)) : List (Points × Content) → Prop
  | same : Rearranged fields fields
  | references {references others : List Content}
      (given : Content.get? (.object fields) "evidence_references" = some (.list references))
      (perm : others.Perm references) : Rearranged fields (withReferences others fields)

/-- The state that is reported of the references. -/
def referenceState (fields : List (Points × Content)) (evidenceInputs : List (Points × Points)) :
    Option ValidationState :=
  (evidenceReferenceState (.object fields) evidenceInputs).map fun fault => fault.finding.state

/-- The violations of a response: its references are no list, or those of the list. -/
def Violations (fields : List (Points × Content)) (evidenceInputs : List (Points × Points))
    (state : ValidationState) : Prop :=
  (∃ references, Content.get? (.object fields) "evidence_references" = some (.list references) ∧
    Violation evidenceInputs references state) ∨
  (∀ references, Content.get? (.object fields) "evidence_references" ≠ some (.list references)) ∧
    state = .invalidEvidenceReferenceStructure

/-- In every order of the references the state is that of highest precedence among the violations of
the list, and none is reported just where every reference is canonical. -/
def OrderFree (fields : List (Points × Content)) (evidenceInputs : List (Points × Points)) : Prop :=
  ∀ arranged, Rearranged fields arranged →
    (∀ state, referenceState arranged evidenceInputs = some state ↔
      Highest (Violations fields evidenceInputs) state) ∧
    (referenceState arranged evidenceInputs = none ↔
      ∃ references, Content.get? (.object fields) "evidence_references" = some (.list references) ∧
        ∀ reference ∈ references, Conforms evidenceInputs reference)

theorem get?_withReferences {others : List Content} {fields : List (Points × Content)} {value : Content}
    (given : Content.get? (.object fields) "evidence_references" = some value) :
    Content.get? (.object (withReferences others fields)) "evidence_references" = some (.list others) := by
  induction fields with
  | nil => cases given
  | cons field fields ih =>
      rw [Content.get?, Dict.find] at given
      rw [withReferences, List.map_cons]
      split at given
      · rename_i same
        rw [if_pos same, Content.get?, Dict.find, if_pos same]
      · rename_i other
        rw [if_neg other, Content.get?, Dict.find, if_neg other]
        exact ih given

section Verdict

variable {fields : List (Points × Content)} {evidenceInputs : List (Points × Points)}
  {references others : List Content}

theorem referenceState_absent
    (absent : ∀ references, Content.get? (.object fields) "evidence_references" ≠ some (.list references)) :
    referenceState fields evidenceInputs = some .invalidEvidenceReferenceStructure := by
  rw [referenceState, evidenceReferenceState, if_neg (by exact nofun)]
  dsimp only [Content.get?]
  split
  · rename_i references given
    exact absurd given (absent references)
  · rfl

theorem referenceState_ambiguous
    (given : Content.get? (.object fields) "evidence_references" = some (.list references))
    (ambiguous : ¬Unambiguous evidenceInputs) :
    referenceState fields evidenceInputs = some .evidenceAmbiguous := by
  have several := Bool.not_eq_false _ ▸ mt unambiguous_iff.mp ambiguous
  rw [referenceState, evidenceReferenceState, if_neg (by exact nofun)]
  rw [given]
  dsimp only
  rw [if_pos several]
  rfl

theorem referenceState_scan
    (given : Content.get? (.object fields) "evidence_references" = some (.list references))
    (unambiguous : Unambiguous evidenceInputs) :
    referenceState fields evidenceInputs =
      (referencesState evidenceInputs [] references).map fun fault => fault.finding.state := by
  rw [referenceState, evidenceReferenceState, if_neg (by exact nofun)]
  rw [given]
  dsimp only
  rw [if_neg (Bool.eq_false_iff.mp (unambiguous_iff.mpr unambiguous))]

theorem Referred.perm (perm : others.Perm references) {spanId contentHash : Points}
    (referred : Referred others spanId contentHash) : Referred references spanId contentHash := by
  obtain ⟨reference, inside, formed⟩ := referred
  exact ⟨reference, perm.mem_iff.mp inside, formed⟩

theorem violations_eq (given : Content.get? (.object fields) "evidence_references" = some (.list references)) :
    Violations fields evidenceInputs = Violation evidenceInputs references := by
  funext state
  refine propext ⟨fun violated => ?_, fun violated => Or.inl ⟨references, given, violated⟩⟩
  rcases violated with ⟨others, given', violated⟩ | ⟨absent, -⟩
  · cases given.symm.trans given'
    exact violated
  · exact absurd given (absent references)

theorem Violation.state {state : ValidationState} (violated : Violation evidenceInputs references state) :
    state = .evidenceAmbiguous ∨ state = .invalidEvidenceReferenceStructure := by
  cases violated with
  | ambiguous => exact Or.inl rfl
  | malformed | mismatch => exact Or.inr rfl

theorem highest_ambiguous {state : ValidationState}
    (violated : Violation evidenceInputs references .evidenceAmbiguous) :
    Highest (Violation evidenceInputs references) state ↔ state = .evidenceAmbiguous := by
  constructor
  · intro ⟨here, least⟩
    refine here.state.resolve_right fun other => ?_
    subst other
    exact absurd (least _ violated) (by decide)
  · intro same
    subst same
    refine ⟨violated, fun other violated' => ?_⟩
    rcases violated'.state with rfl | rfl <;> decide

theorem highest_invalid {state : ValidationState}
    (violated : Violation evidenceInputs references .invalidEvidenceReferenceStructure)
    (clear : ¬Violation evidenceInputs references .evidenceAmbiguous) :
    Highest (Violation evidenceInputs references) state ↔
      state = .invalidEvidenceReferenceStructure := by
  constructor
  · intro ⟨here, _⟩
    refine here.state.resolve_left fun other => ?_
    subst other
    exact clear here
  · intro same
    subst same
    refine ⟨violated, fun other violated' => ?_⟩
    rcases violated'.state with rfl | rfl
    · exact absurd violated' clear
    · exact Nat.le_refl _

theorem violation_of_not_conforms {reference : Content} (inside : reference ∈ references)
    (other : ¬Conforms evidenceInputs reference) :
    Violation evidenceInputs references .invalidEvidenceReferenceStructure := by
  cases read : referenceOf reference with
  | error fault => exact .malformed inside read
  | ok pair =>
      refine .mismatch ⟨reference, inside, read⟩ fun canonical => other ?_
      exact ⟨pair.1, pair.2, read, canonical⟩

/-- A reference that is not canonical can come first. -/
theorem scan_first {reference : Content} (inside : reference ∈ references)
    {spanId contentHash : Points} (formed : referenceOf reference = .ok (spanId, contentHash))
    (other : ¬CanonicalPair evidenceInputs spanId contentHash) :
    ∃ others, others.Perm references ∧
      referencesState evidenceInputs [] others = some .doesNotMatch := by
  obtain ⟨front, back, rfl⟩ := List.append_of_mem inside
  refine ⟨reference :: (front ++ back), List.perm_middle.symm, ?_⟩
  rw [referencesState, formed]
  dsimp only
  rw [if_neg (by exact nofun), if_pos (mt canonicalHashes_eq.mp other)]

theorem Conflicting.not_conforms (conflicting : Conflicting references) :
    ¬∀ reference ∈ references, Conforms evidenceInputs reference := by
  intro all
  obtain ⟨spanId, a, b, differ, first, second⟩ := conflicting
  have canonical {hash : Points} (referred : Referred references spanId hash) :
      CanonicalPair evidenceInputs spanId hash := by
    obtain ⟨reference, inside, formed⟩ := referred
    obtain ⟨_, _, formed', pair⟩ := all reference inside
    cases formed.symm.trans formed'
    exact pair
  exact differ ((canonical second).2 a (canonical first).1)

/-- Without two hashes of one span the scan agrees with the violations in every order. -/
theorem arranged_verdict (perm : others.Perm references)
    (given : Content.get? (.object fields) "evidence_references" = some (.list others))
    (unambiguous : Unambiguous evidenceInputs) (settled : ¬Conflicting references) :
    (∀ state, referenceState fields evidenceInputs = some state ↔
      Highest (Violation evidenceInputs references) state) ∧
    (referenceState fields evidenceInputs = none ↔
      ∀ reference ∈ references, Conforms evidenceInputs reference) := by
  rw [referenceState_scan given unambiguous]
  have none_iff : referencesState evidenceInputs [] others = none ↔
      ∀ reference ∈ others, Conforms evidenceInputs reference :=
    referencesState_none fun _ inside => absurd inside List.not_mem_nil
  have clear : ¬Violation evidenceInputs references .evidenceAmbiguous := by
    intro violated
    cases violated with
    | ambiguous conflicting => exact settled conflicting
  cases scan : referencesState evidenceInputs [] others with
  | none =>
      have all (reference : Content) (inside : reference ∈ references) :
          Conforms evidenceInputs reference :=
        none_iff.mp scan reference (perm.mem_iff.mpr inside)
      refine ⟨fun state => iff_of_false nofun fun highest => ?_, iff_of_true rfl all⟩
      rcases highest.1.state with rfl | rfl
      · exact clear highest.1
      · cases highest.1 with
        | malformed inside refused =>
            obtain ⟨_, _, formed, _⟩ := all _ inside
            cases refused.symm.trans formed
        | mismatch referred other =>
            obtain ⟨reference, inside, formed⟩ := referred
            obtain ⟨_, _, formed', canonical⟩ := all _ inside
            cases formed.symm.trans formed'
            exact other canonical
  | some fault =>
      have not_all : ¬∀ reference ∈ references, Conforms evidenceInputs reference := by
        intro all
        have clean := none_iff.mpr fun reference inside => all reference (perm.mem_iff.mp inside)
        cases scan.symm.trans clean
      have invalid : fault.finding.state = .invalidEvidenceReferenceStructure := by
        refine (referencesState_some scan).resolve_right fun ⟨_, spanId, a, b, differ, first, second⟩ => ?_
        have first := first.resolve_left List.not_mem_nil
        exact settled ⟨spanId, a, b, differ, first.perm perm, second.perm perm⟩
      obtain ⟨reference, bad⟩ := not_forall.mp not_all
      obtain ⟨inside, other⟩ := Classical.not_imp.mp bad
      have violated := violation_of_not_conforms inside other
      refine ⟨fun state => ?_, iff_of_false nofun not_all⟩
      rw [highest_invalid violated clear, Option.map_some, invalid, Option.some.injEq, eq_comm]

/-- Where a span of the inputs has two hashes, the report is the highest violation of a list that
gives one span two as well. -/
theorem ambiguous_verdict
    (given : Content.get? (.object fields) "evidence_references" = some (.list others))
    (ambiguous : ¬Unambiguous evidenceInputs) (conflicting : Conflicting references) :
    (∀ state, referenceState fields evidenceInputs = some state ↔
      Highest (Violation evidenceInputs references) state) ∧
    (referenceState fields evidenceInputs = none ↔
      ∀ reference ∈ references, Conforms evidenceInputs reference) := by
  rw [referenceState_ambiguous given ambiguous]
  refine ⟨fun state => ?_, iff_of_false nofun conflicting.not_conforms⟩
  rw [highest_ambiguous (.ambiguous conflicting), Option.some.injEq, eq_comm]

/-- A list of two hashes for one span has an order in which the scan reports another violation. -/
theorem Conflicting.scan (conflicting : Conflicting references) : ∃ others, others.Perm references ∧
    referencesState evidenceInputs [] others = some .doesNotMatch := by
  obtain ⟨spanId, a, b, differ, first, second⟩ := conflicting
  have early {hash : Points} (referred : Referred references spanId hash)
      (other : ¬CanonicalPair evidenceInputs spanId hash) : ∃ others, others.Perm references ∧
        referencesState evidenceInputs [] others = some .doesNotMatch := by
    obtain ⟨reference, inside, formed⟩ := referred
    exact scan_first inside formed other
  by_cases canonical : CanonicalPair evidenceInputs spanId a
  · exact early second fun canonical' => differ (canonical'.2 a canonical.1)
  · exact early first canonical

end Verdict

/-- The verdict is that of highest precedence in every order of the references just where the list
has two hashes for one span if and only if the inputs have. -/
theorem references_orderFree (fields : List (Points × Content)) (evidenceInputs : List (Points × Points)) :
    OrderFree fields evidenceInputs ↔
      ∀ references, Content.get? (.object fields) "evidence_references" = some (.list references) →
        (Conflicting references ↔ ¬Unambiguous evidenceInputs) := by
  constructor
  · intro free references given
    constructor
    · intro conflicting unambiguous
      obtain ⟨others, perm, scan⟩ := conflicting.scan
      have verdict := (free _ (.references given perm)).1 .invalidEvidenceReferenceStructure
      rw [referenceState_scan (get?_withReferences given) unambiguous, scan, violations_eq given] at verdict
      exact absurd ((verdict.mp rfl).2 _ (.ambiguous conflicting)) (by decide)
    · intro ambiguous
      have verdict := (free _ .same).1 .evidenceAmbiguous
      rw [referenceState_ambiguous given ambiguous, violations_eq given] at verdict
      cases (verdict.mp rfl).1 with
      | ambiguous conflicting => exact conflicting
  · intro settled arranged rearranged
    by_cases list : ∃ references, Content.get? (.object fields) "evidence_references" = some (.list references)
    · obtain ⟨references, given⟩ := list
      obtain ⟨others, perm, given'⟩ : ∃ others, others.Perm references ∧
          Content.get? (.object arranged) "evidence_references" = some (.list others) := by
        cases rearranged with
        | same => exact ⟨references, .refl _, given⟩
        | references given' perm =>
            cases given.symm.trans given'
            exact ⟨_, perm, get?_withReferences given⟩
      have verdict : (∀ state, referenceState arranged evidenceInputs = some state ↔
            Highest (Violation evidenceInputs references) state) ∧
          (referenceState arranged evidenceInputs = none ↔
            ∀ reference ∈ references, Conforms evidenceInputs reference) := by
        by_cases unambiguous : Unambiguous evidenceInputs
        · exact arranged_verdict perm given' unambiguous fun conflicting =>
            (settled references given).mp conflicting unambiguous
        · exact ambiguous_verdict given' unambiguous ((settled references given).mpr unambiguous)
      rw [violations_eq given]
      refine ⟨verdict.1, verdict.2.trans ⟨fun all => ⟨references, given, all⟩, fun ⟨lists, there, all⟩ => ?_⟩⟩
      cases given.symm.trans there
      exact all
    · have absent := not_exists.mp list
      have same : arranged = fields := by
        cases rearranged with
        | same => rfl
        | references given _ => exact absurd ⟨_, given⟩ list
      rw [same, referenceState_absent absent]
      refine ⟨fun state => ?_, iff_of_false nofun fun ⟨references, given, _⟩ => absent references given⟩
      rw [Option.some.injEq]
      constructor
      · intro reported
        refine ⟨Or.inr ⟨absent, reported.symm⟩, fun other violated => ?_⟩
        rcases violated with ⟨references, given, _⟩ | ⟨-, invalid⟩
        · exact absurd given (absent references)
        · rw [invalid, ← reported]
      · intro ⟨violated, _⟩
        rcases violated with ⟨references, given, _⟩ | ⟨-, invalid⟩
        · exact absurd given (absent references)
        · exact invalid.symm

/-- A reference as a response gives it. -/
def reference (spanId contentHash : String) : Content :=
  .object [("span_id", .str spanId), ("content_hash", .str contentHash)]

def twoHashes : List (Points × Content) := [("evidence_references",
  .list [reference "span-1" "hash-1", reference "span-1" "hash-2"])]

/-- Two hashes of one span, the canonical one first, are reported as ambiguous, and in the other
order as a structure that is invalid. -/
theorem references_orderFree_fails : ¬∀ fields evidenceInputs, OrderFree fields evidenceInputs := by
  intro claim
  have given : Content.get? (.object twoHashes) "evidence_references" =
      some (.list [reference "span-1" "hash-1", reference "span-1" "hash-2"]) := rfl
  have free := claim twoHashes [("span-1", "hash-1")]
  have first := (free _ .same).1 .evidenceAmbiguous
  have second := (free _ (.references given (.swap _ _ _))).1 .evidenceAmbiguous
  have reported := second.mpr (first.mp (by decide))
  exact absurd reported (by decide)

end Hunter.ResponseValidator
