import Mathlib
import Hunter.Data.Choice
import Hunter.Knowledge.Consistency
import Hunter.Knowledge.Observation

/-!
The records of a batch of observations: a finding for each thread that is seen for
the first time, and a family for those of trusted authors that are tagged or whose
fingerprint is mapped already. Within the batch a fingerprint is mapped by the last
family it was matched to.
-/

namespace Hunter.Knowledge

open IssueAgent Chars

/-- What an ingestion is given besides the view: the repository, the authors whose tags
count and the registry. A family is applicable to a path, or not, or unknown. -/
structure Intake where
  repositoryId : Int
  trustedReviewers : List String
  applicability : FamilyId → String → Option Bool

structure Batch where
  writes : List Write
  refusals : List String
  pending : Dict Sha64 FamilyId
  queued : List Sha64

def Batch.empty : Batch := ⟨[], [], .empty, []⟩

/-- `name.lower().removesuffix("[bot]")`. -/
def authorName (name : String) : List Char :=
  let small := lower name.scalars
  if "[bot]".scalars.isSuffixOf small then small.take (small.length - "[bot]".scalars.length)
  else small

/-- The others are not findings: top-level reviews and unavailable sensors. -/
def isFindingEvent (event : String) : Bool :=
  "review-comment-".scalars.isPrefixOf event.scalars || "sonar-issue-".scalars.isPrefixOf event.scalars

/-- A finding that was read, with the family its text is tagged with. -/
structure Sighting where
  evidence : FindingIngested
  tag : Option FamilyId

namespace Sighting

def id (s : Sighting) : Sha64 := s.evidence.findingId

def print (s : Sighting) : Sha64 := s.evidence.fingerprint

end Sighting

def sight (o : Observation) (repositoryId : Int) : Py Sighting := do
  let evidence ← findingFromObservation o repositoryId
  let tag ← familyTag o.message
  return ⟨evidence, tag⟩

namespace Intake

variable (a : Intake)

/-- Every author is learned from, but only a trusted one maps a finding to a family. -/
def trusts (s : Sighting) : Bool :=
  (a.trustedReviewers.map authorName).contains (authorName s.evidence.provenance.reviewer.val)

def applies (s : Sighting) (family : FamilyId) : Bool :=
  a.applicability family s.evidence.provenance.path.val = some true

end Intake

def classified (id : Sha64) (outcome : Outcome) (family : Option FamilyId) : FindingClassified :=
  ⟨id, outcome, family, none, .deterministic, [], none⟩

/-- The deterministic outcome of a sighting, if it has one. -/
def outcomeOf (view : KnowledgeView) (a : Intake) (pending : Dict Sha64 FamilyId) (s : Sighting) :
    Option (Outcome × Option FamilyId) :=
  match s.tag with
  | some tag => if a.applies s tag then some (.matched, some tag) else some (.ambiguous, none)
  | none =>
      ((view.matchedFamilyFor s.print).or (pending.get? s.print)).map fun family =>
        (.matched, some family)

/-- A sighting that is new: it is queued, and classified if its author is trusted. -/
def Batch.take (view : KnowledgeView) (a : Intake) (batch : Batch) (s : Sighting) : Batch :=
  let batch := { batch with
    queued := batch.queued ++ [s.id]
    writes := batch.writes ++ [Write.of (.findingIngested s.evidence)] }
  if a.trusts s then
    match outcomeOf view a batch.pending s with
    | none => batch
    | some (outcome, family) =>
        { batch with
          pending := family.elim batch.pending (batch.pending.set s.print)
          writes := batch.writes ++ [Write.of (.findingClassified (classified s.id outcome family))] }
  else batch

def ingest (view : KnowledgeView) (a : Intake) (batch : Batch) (o : Observation) : Py Batch :=
  if isFindingEvent o.eventId then
    match sight o a.repositoryId with
    | .error (.findingRefused message) =>
        .ok { batch with refusals := batch.refusals ++ [o.eventId ++ ": " ++ message] }
    | .error exn => .error exn
    | .ok s =>
        -- the first observation of a thread wins, later heads observe it again
        if (view.findings.get? s.id).isSome ∨ s.id ∈ batch.queued then .ok batch
        else .ok (batch.take view a s)
  else .ok batch

/-- The records of a batch of observations, and the reasons of the refusals. -/
def ingestionWrites (view : KnowledgeView) (a : Intake) (observations : List Observation) :
    Py (List Write × List String) := do
  let batch ← observations.foldlM (ingest view a) .empty
  return (batch.writes, batch.refusals)

def Observation.sighting (o : Observation) (repositoryId : Int) : Option Sighting :=
  if isFindingEvent o.eventId then (sight o repositoryId).toOption else none

/-- The sightings of findings that are not seen yet, each for the first time. -/
def firstSightings (repositoryId : Int) : (Sha64 → Bool) → List Observation → List Sighting
  | _, [] => []
  | seen, o :: observations =>
      match o.sighting repositoryId with
      | none => firstSightings repositoryId seen observations
      | some s =>
          if seen s.id then firstSightings repositoryId seen observations
          else s :: firstSightings repositoryId (fun id => seen id || id == s.id) observations

def newSightings (view : KnowledgeView) (a : Intake) (observations : List Observation) :
    List Sighting :=
  firstSightings a.repositoryId (fun id => (view.findings.get? id).isSome) observations

section First

variable {repositoryId : Int}

theorem firstSightings_append {seen : Sha64 → Bool} {first second : List Observation} :
    firstSightings repositoryId seen (first ++ second) =
      firstSightings repositoryId seen first ++
        firstSightings repositoryId (fun id => seen id ||
          (firstSightings repositoryId seen first).any fun s => id == s.id) second := by
  induction first generalizing seen with
  | nil => simp [firstSightings]
  | cons o first ih =>
      rw [List.cons_append, firstSightings, firstSightings]
      cases o.sighting repositoryId with
      | none => exact ih
      | some s =>
          by_cases known : seen s.id = true
          · simp only [if_pos known]
            exact ih
          · simp only [if_neg known, List.cons_append, List.cons.injEq, true_and, List.any_cons,
              ← Bool.or_assoc]
            exact ih

/-- What was seen in the meantime is not sighted again. -/
theorem firstSightings_seen {seen : Sha64 → Bool} {observations : List Observation}
    {done rest : List Sighting} (h : firstSightings repositoryId seen observations = done ++ rest) :
    firstSightings repositoryId (fun id => seen id || done.any fun s => id == s.id) observations =
      rest := by
  induction observations generalizing seen done with
  | nil =>
      rw [firstSightings] at h ⊢
      exact (List.append_eq_nil_iff.mp h.symm).2.symm
  | cons o observations ih =>
      rw [firstSightings] at h ⊢
      cases sighted : o.sighting repositoryId with
      | none =>
          rw [sighted] at h
          exact ih h
      | some s =>
          rw [sighted] at h
          by_cases known : seen s.id = true
          · simp only [if_pos known] at h
            simp only [known, Bool.true_or, if_true]
            exact ih h
          · simp only [if_neg known] at h
            cases done with
            | nil =>
                simp only [List.any_nil, Bool.or_false, if_neg known]
                exact h
            | cons first done =>
                obtain ⟨rfl, tail⟩ := List.cons.inj h
                simp only [List.any_cons, BEq.rfl, Bool.true_or, Bool.or_true, if_true,
                  ← Bool.or_assoc]
                exact ih tail

theorem firstSightings_fresh {seen : Sha64 → Bool} {observations : List Observation} :
    ((firstSightings repositoryId seen observations).map Sighting.id).Nodup ∧
      ∀ s ∈ firstSightings repositoryId seen observations, seen s.id = false := by
  induction observations generalizing seen with
  | nil => exact ⟨List.nodup_nil, fun _ inside => absurd inside List.not_mem_nil⟩
  | cons o observations ih =>
      rw [firstSightings]
      cases o.sighting repositoryId with
      | none => exact ih
      | some s =>
          by_cases known : seen s.id = true
          · simp only [if_pos known]
            exact ih
          · simp only [if_neg known]
            obtain ⟨distinct, fresh⟩ := @ih (fun id => seen id || id == s.id)
            have unseen : seen s.id = false := Bool.eq_false_iff.mpr known
            have others (t : Sighting) (member : t ∈ firstSightings repositoryId
                (fun id => seen id || id == s.id) observations) :
                seen t.id = false ∧ t.id ≠ s.id := by
              have one := fresh t member
              simpa using one
            refine ⟨List.nodup_cons.mpr ⟨fun member => ?_, distinct⟩,
              List.forall_mem_cons.mpr ⟨unseen, fun t member => (others t member).1⟩⟩
            obtain ⟨t, present, same⟩ := List.mem_map.mp member
            exact (others t present).2 same

/-- Every part of the new sightings is that of a first part of the observations. -/
theorem firstSightings_cut {seen : Sha64 → Bool} {observations : List Observation}
    {done rest : List Sighting} (h : firstSightings repositoryId seen observations = done ++ rest) :
    ∃ first second, observations = first ++ second ∧
      firstSightings repositoryId seen first = done := by
  induction observations generalizing seen done with
  | nil =>
      rw [firstSightings] at h
      exact ⟨[], [], rfl, (List.append_eq_nil_iff.mp h.symm).1.symm⟩
  | cons o observations ih =>
      cases done with
      | nil => exact ⟨[], o :: observations, rfl, rfl⟩
      | cons s done =>
          rw [firstSightings] at h
          cases sighted : o.sighting repositoryId with
          | none =>
              rw [sighted] at h
              obtain ⟨first, second, rfl, same⟩ := ih h
              exact ⟨o :: first, second, rfl, by rw [firstSightings, sighted, ← same]⟩
          | some t =>
              rw [sighted] at h
              by_cases known : seen t.id = true
              · simp only [if_pos known] at h
                obtain ⟨first, second, rfl, same⟩ := ih h
                exact ⟨o :: first, second, rfl, by
                  simp only [firstSightings, sighted, if_pos known, same]⟩
              · simp only [if_neg known, List.cons_append] at h
                obtain ⟨rfl, tail⟩ := List.cons.inj h
                obtain ⟨first, second, rfl, same⟩ := ih tail
                exact ⟨o :: first, second, rfl, by
                  simp only [firstSightings, sighted, if_neg known, same]⟩

end First

/-- The families that the findings of one fingerprint are matched to. -/
def KnowledgeView.mapped (view : KnowledgeView) (print : Sha64) : List FamilyId :=
  (view.matchedFamilies print).reduceOption

/-- The families that trusted tags gave to a fingerprint, in their order. -/
def Intake.tagged (a : Intake) (print : Sha64) (sightings : List Sighting) : List FamilyId :=
  sightings.filterMap fun s =>
    if s.print = print ∧ a.trusts s = true then s.tag.filter (a.applies s) else none

/-- A sighting without a tag by a trusted author. -/
def Intake.Plain (a : Intake) (s : Sighting) : Prop := a.trusts s = true ∧ s.tag = none

/-- The classification of a new sighting that comes after others. -/
def verdict (view : KnowledgeView) (a : Intake) (before : List Sighting) (s : Sighting) :
    Option FindingClassified :=
  if a.trusts s then
    match s.tag with
    | some tag =>
        some (if a.applies s tag then classified s.id .matched (some tag)
          else classified s.id .ambiguous none)
    | none =>
        (Choice.choose (view.mapped s.print) (a.tagged s.print before)).map fun family =>
          classified s.id .matched (some family)
  else none

/-- The evidences of a sighting that is classified or not. -/
def Sighting.evidences (s : Sighting) (c : Option FindingClassified) : List Evidence :=
  .findingIngested s.evidence :: c.toList.map .findingClassified

def evidences (view : KnowledgeView) (a : Intake) : List Sighting → List Sighting → List Evidence
  | _, [] => []
  | before, s :: sightings =>
      s.evidences (verdict view a before s) ++ evidences view a (before ++ [s]) sightings

theorem evidences_append {view : KnowledgeView} {a : Intake} {before first second : List Sighting} :
    evidences view a before (first ++ second) =
      evidences view a before first ++ evidences view a (before ++ first) second := by
  induction first generalizing before with
  | nil => simp [evidences]
  | cons s first ih =>
      rw [List.cons_append, evidences, evidences, ih, List.append_assoc, List.append_assoc]
      rfl

/-- A finding that is matched is matched to a family. -/
def Named (view : KnowledgeView) : Prop :=
  ∀ id item basis c, view.findings.get? id = some item → item.classifications basis = some c →
    c.outcome = .matched → c.familyId.isSome

theorem Extends.named {view view' : KnowledgeView} {record : Record}
    (h : Extends view record view') (named : Named view) : Named view' := by
  intro id item basis c present classified matched
  cases h.finding present with
  | inl before => exact named id item basis c before classified matched
  | inr leaves =>
      generalize record.evidence = evidence at leaves
      cases leaves with
      | ingest e source identity print => cases classified
      | assess e before found source tests => exact named _ before _ _ found classified matched
      | request e before found is_open unproven next budget pull pull_budget =>
          exact named _ before _ _ found classified matched
      | prove e before proven found proof authorization tests =>
          exact named _ before _ _ found classified matched
      | resolve e before proven found is_proven head =>
          exact named _ before _ _ found classified matched
      | classify e before found family candidate basis =>
          rw [Finding.classifications_classify] at classified
          split at classified
          · cases classified
            exact family.mp matched
          · exact named _ before _ _ found classified matched

theorem Run.named {repositoryId : Int} {records : List Record} {view : KnowledgeView}
    (h : Run Extends (.empty repositoryId) records view) : Named view := by
  refine h.preserves Named (fun _ _ _ before step => step.named before) ?_
  intro id item basis c present
  cases present

theorem mem_matchedFamilies {view : KnowledgeView} {print : Sha64} {family : Option FamilyId} :
    family ∈ view.matchedFamilies print ↔ ∃ id item c, view.findings.get? id = some item ∧
      item.ingested.fingerprint = print ∧ item.classification = some c ∧ c.outcome = .matched ∧
        c.familyId = family := by
  simp only [KnowledgeView.matchedFamilies, List.mem_dedup, List.mem_filterMap, Dict.mem_values_iff]
  constructor
  · rintro ⟨item, ⟨id, found⟩, same⟩
    split at same
    · rename_i printed
      obtain ⟨c, filtered, rfl⟩ := Option.map_eq_some_iff.mp same
      obtain ⟨classified, matched⟩ := Option.filter_eq_some_iff.mp filtered
      exact ⟨id, item, c, found, printed, classified, of_decide_eq_true matched, rfl⟩
    · cases same
  · rintro ⟨id, item, c, found, printed, classified, matched, rfl⟩
    exact ⟨item, ⟨id, found⟩, by simp [printed, classified, matched]⟩

theorem mem_mapped {view : KnowledgeView} {print : Sha64} {family : FamilyId} :
    family ∈ view.mapped print ↔ ∃ id item c, view.findings.get? id = some item ∧
      item.ingested.fingerprint = print ∧ item.classification = some c ∧ c.outcome = .matched ∧
        c.familyId = some family := by
  rw [KnowledgeView.mapped, List.reduceOption_mem_iff, mem_matchedFamilies]

/-- `matched_family_for` is the only family a fingerprint is mapped to. -/
theorem matchedFamilyFor_eq {view : KnowledgeView} (named : Named view) (print : Sha64) :
    view.matchedFamilyFor print = Choice.sole (view.mapped print) := by
  have distinct : (view.matchedFamilies print).Nodup := List.nodup_dedup _
  have solid (family : Option FamilyId) (member : family ∈ view.matchedFamilies print) :
      family.isSome := by
    obtain ⟨id, item, c, found, -, classified, matched, rfl⟩ := mem_matchedFamilies.mp member
    simp only [Finding.classification, Option.or_eq_some_iff] at classified
    cases classified with
    | inl proven => exact named id item _ c found proven matched
    | inr other => exact named id item _ c found other.2 matched
  have whole : (view.mapped print).map some = view.matchedFamilies print := by
    rw [KnowledgeView.mapped]
    generalize view.matchedFamilies print = families at solid
    induction families with
    | nil => rfl
    | cons family families ih =>
        obtain ⟨first, others⟩ := List.forall_mem_cons.mp solid
        obtain ⟨f, rfl⟩ := Option.isSome_iff_exists.mp first
        rw [List.reduceOption_cons_of_some, List.map_cons, ih others]
  have apart : (view.mapped print).Nodup := List.Nodup.of_map some (whole ▸ distinct)
  rw [KnowledgeView.matchedFamilyFor, ← whole, Choice.sole, apart.dedup]
  rcases view.mapped print with - | ⟨family, - | ⟨other, rest⟩⟩ <;> rfl

/-- What a batch has taken in once some sightings were new. -/
structure Batch.Took (view : KnowledgeView) (a : Intake) (batch : Batch) (sightings : List Sighting) :
    Prop where
  writes : batch.writes = (evidences view a [] sightings).map Write.of
  queued : batch.queued = sightings.map Sighting.id
  pending : ∀ print, Choice.sole (view.mapped print) = none →
    batch.pending.get? print = (a.tagged print sightings).getLast?

theorem Intake.tagged_snoc (a : Intake) (print : Sha64) (sightings : List Sighting) (s : Sighting) :
    a.tagged print (sightings ++ [s]) = a.tagged print sightings ++
      (if s.print = print ∧ a.trusts s = true then s.tag.filter (a.applies s) else none).toList := by
  rw [tagged, tagged, List.filterMap_append]
  rfl

namespace Batch.Took

variable {view : KnowledgeView} {a : Intake} {batch : Batch} {sightings : List Sighting}

theorem verdict (h : batch.Took view a sightings) (named : Named view) {s : Sighting}
    (trusted : a.trusts s = true) :
    (outcomeOf view a batch.pending s).map (fun o => classified s.id o.1 o.2) =
      Knowledge.verdict view a sightings s := by
  rw [Knowledge.verdict, if_pos trusted, outcomeOf]
  cases s.tag with
  | some family =>
      by_cases applies : a.applies s family = true <;> simp [applies]
  | none =>
      rw [matchedFamilyFor_eq named, Choice.choose]
      cases known : Choice.sole (view.mapped s.print) with
      | some family => rfl
      | none =>
          rw [Option.none_or, Option.none_or, h.pending s.print known, Option.map_map]
          rfl

/-- A family that a batch carries is the last one that was said of the fingerprint. -/
theorem pending_take (h : batch.Took view a sightings) (named : Named view) (s : Sighting)
    {print : Sha64} (alone : Choice.sole (view.mapped print) = none) :
    (batch.take view a s).pending.get? print = (a.tagged print (sightings ++ [s])).getLast? := by
  have before := h.pending print alone
  rw [Intake.tagged_snoc]
  by_cases trusted : a.trusts s = true
  · rw [Batch.take, if_pos trusted, outcomeOf]
    cases tag : s.tag with
    | some family =>
        by_cases applies : a.applies s family = true
        · by_cases here : s.print = print
          · simp [applies, here, trusted, Option.filter_some]
          · simp [applies, here, Dict.get?_set, Ne.symm here, before]
        · simp [applies, before, Option.filter_some]
    | none =>
        by_cases here : s.print = print
        · subst here
          simp only [matchedFamilyFor_eq named, alone, Option.none_or]
          cases carried : batch.pending.get? s.print with
          | none => simp [carried, ← before]
          | some family => simp [carried, ← before]
        · cases ((view.matchedFamilyFor s.print).or (batch.pending.get? s.print)) with
          | none => simp [before]
          | some family => simp [Dict.get?_set, Ne.symm here, before]
  · rw [Batch.take, if_neg trusted]
    simp [trusted, before]

theorem take (h : batch.Took view a sightings) (named : Named view) (s : Sighting) :
    (batch.take view a s).Took view a (sightings ++ [s]) := by
  have snoc : evidences view a [] (sightings ++ [s]) = evidences view a [] sightings ++
      s.evidences (Knowledge.verdict view a sightings s) := by
    simp [evidences_append, evidences]
  have parts : (batch.take view a s).writes = batch.writes ++
        (s.evidences (Knowledge.verdict view a sightings s)).map Write.of ∧
      (batch.take view a s).queued = batch.queued ++ [s.id] := by
    by_cases trusted : a.trusts s = true
    · rw [← h.verdict named trusted, Batch.take, if_pos trusted]
      cases outcomeOf view a batch.pending s with
      | none => exact ⟨rfl, rfl⟩
      | some o => exact ⟨List.append_assoc _ _ _, rfl⟩
    · rw [Knowledge.verdict, if_neg trusted, Batch.take, if_neg trusted]
      exact ⟨rfl, rfl⟩
  refine ⟨?_, ?_, fun print alone => h.pending_take named s alone⟩
  · rw [parts.1, snoc, List.map_append, h.writes]
  · rw [parts.2, h.queued, List.map_append]
    rfl

end Batch.Took

/-- The step of a batch takes in what is sighted for the first time. -/
theorem ingest_ok {view : KnowledgeView} {a : Intake} {batch batch' : Batch} {o : Observation}
    (h : ingest view a batch o = .ok batch') :
    match o.sighting a.repositoryId with
    | none => batch'.writes = batch.writes ∧ batch'.queued = batch.queued ∧
        batch'.pending = batch.pending
    | some s => if (view.findings.get? s.id).isSome ∨ s.id ∈ batch.queued then batch' = batch
        else batch' = batch.take view a s := by
  rw [ingest] at h
  rw [Observation.sighting]
  split at h
  · rename_i event
    rw [if_pos event]
    split at h
    · rename_i refused
      cases h
      simp [refused, Except.toOption]
    · cases h
    · rename_i s sighted
      rw [sighted]
      simp only [Except.toOption]
      split at h
      · rename_i known
        cases h
        rw [if_pos known]
      · rename_i unknown
        cases h
        rw [if_neg unknown]
  · rename_i other
    cases h
    simp [other]

/-- The records of a batch are those of its new sightings. -/
theorem ingestionWrites_ok {view : KnowledgeView} {a : Intake} {observations : List Observation}
    {writes : List Write} {refusals : List String} (named : Named view)
    (h : ingestionWrites view a observations = .ok (writes, refusals)) :
    writes = (evidences view a [] (newSightings view a observations)).map Write.of := by
  obtain ⟨batch, looped, same⟩ := bind_ok.mp h
  cases same
  have loop (batch : Batch) (done : List Sighting) (seen : Sha64 → Bool)
      (took : batch.Took view a done)
      (known : ∀ id, seen id = true ↔ (view.findings.get? id).isSome ∨ id ∈ batch.queued)
      (rest : List Observation) (final : Batch) (run : rest.foldlM (ingest view a) batch = .ok final) :
      final.Took view a (done ++ firstSightings a.repositoryId seen rest) := by
    induction rest generalizing batch done seen with
    | nil =>
        cases run
        simpa [firstSightings] using took
    | cons o rest ih =>
        rw [List.foldlM_cons] at run
        obtain ⟨next, step, tail⟩ := bind_ok.mp run
        have one := ingest_ok step
        rw [firstSightings]
        cases sighted : o.sighting a.repositoryId with
        | none =>
            rw [sighted] at one
            obtain ⟨writes, queued, pending⟩ := one
            refine ih next done seen ⟨writes ▸ took.writes, queued ▸ took.queued, ?_⟩ ?_ tail
            · rw [pending]
              exact took.pending
            · rw [queued]
              exact known
        | some s =>
            rw [sighted] at one
            by_cases seen_before : seen s.id = true
            · simp only [if_pos ((known s.id).mp seen_before)] at one
              simp only [if_pos seen_before]
              subst one
              exact ih _ done seen took known tail
            · simp only [if_neg (mt (known s.id).mpr seen_before)] at one
              simp only [if_neg seen_before]
              subst one
              rw [List.append_cons]
              refine ih _ _ _ (took.take named s) (fun id => ?_) tail
              rw [(took.take named s).queued, Bool.or_eq_true, known, beq_iff_eq, took.queued,
                List.map_append, List.mem_append, List.map_singleton, List.mem_singleton, or_assoc]
  have start : Batch.empty.Took view a [] := ⟨rfl, rfl, fun _ _ => rfl⟩
  exact (loop .empty [] _ start (fun id => by simp [Batch.empty]) observations batch looped).writes

end Hunter.Knowledge
