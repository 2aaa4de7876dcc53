import Hunter.Data.Supersession
import Hunter.Machine.Run
import Hunter.MarketValidation.Replay
import Hunter.Valuation.Records

/-!
The estimates and the assessments of an identity advance together. Each kind forms one line of
corrections, and the two lines have their records in pairs: a call adds one to both, or leaves
both as they are. A replay therefore answers with an estimate and with the assessment of it.
-/

namespace Hunter.Valuation

open Calendar Fallible Supersession
open MarketValidation (blank sha256 sha256_ofList)

variable {stored after : Store} {estimate : FairValueEstimateRecord} {assessment : ValuationAssessmentRecord}

def estimates (stored : Store) : List FairValueEstimateRecord := stored.filterMap Snapshot.estimate?

def assessments (stored : Store) : List ValuationAssessmentRecord := stored.filterMap Snapshot.assessment?

theorem mem_estimates : estimate ∈ estimates stored ↔ Snapshot.estimate estimate ∈ stored := by
  rw [estimates, List.mem_filterMap]
  constructor
  · rintro ⟨snapshot, inside, read⟩
    cases snapshot with
    | estimate record =>
        cases read
        exact inside
    | assessment record => cases read
    | other id payload => cases read
  · exact fun inside => ⟨_, inside, rfl⟩

theorem mem_assessments : assessment ∈ assessments stored ↔ Snapshot.assessment assessment ∈ stored := by
  rw [assessments, List.mem_filterMap]
  constructor
  · rintro ⟨snapshot, inside, read⟩
    cases snapshot with
    | assessment record =>
        cases read
        exact inside
    | estimate record => cases read
    | other id payload => cases read
  · exact fun inside => ⟨_, inside, rfl⟩

theorem links_estimate : stored.links .estimate = (estimates stored).map FairValueEstimateRecord.link := by
  rw [Store.links, estimates, List.map_filterMap]
  refine List.filterMap_congr fun snapshot _ => ?_
  cases snapshot <;> rfl

theorem links_assessment :
    stored.links .assessment = (assessments stored).map ValuationAssessmentRecord.link := by
  rw [Store.links, assessments, List.map_filterMap]
  refine List.filterMap_congr fun snapshot _ => ?_
  cases snapshot <;> rfl

/-- The later one was recorded and known later. -/
def Follows (a b : Link) : Prop := a.recordedAt < b.recordedAt ∧ a.knownAt < b.knownAt

theorem Follows.trans {a b c : Link} (ab : Follows a b) (bc : Follows b c) : Follows a c :=
  ⟨ab.1.trans bc.1, ab.2.trans bc.2⟩

theorem link?_recordId {snapshotType : SnapshotType} {snapshot : Snapshot} {link : Link}
    (read : snapshot.link? snapshotType = some link) : link.recordId = snapshot.id := by
  cases snapshot with
  | estimate record =>
      obtain ⟨-, same⟩ := Option.ite_none_right_eq_some.mp read
      cases same
      rfl
  | assessment record =>
      obtain ⟨-, same⟩ := Option.ite_none_right_eq_some.mp read
      cases same
      rfl
  | other id payload => cases read

theorem authorizeCorrection_ok {snapshotType : SnapshotType} {record : Link}
    (authorized : authorizeCorrection stored snapshotType record = .ok ()) :
    Admits Link.recordId Link.supersedesRecordId Link.logicalId Follows (stored.links snapshotType)
      record := by
  unfold authorizeCorrection at authorized
  cases names : record.supersedesRecordId with
  | none =>
      simp only [names, require_ok] at authorized
      exact Or.inl ⟨names, authorized⟩
  | some supersedesRecordId =>
      simp only [names] at authorized
      cases found : (stored.load supersedesRecordId).bind (Snapshot.link? snapshotType) with
      | none =>
          rw [found] at authorized
          cases authorized
      | some prior =>
          simp only [found, require_bind_ok, require_ok] at authorized
          obtain ⟨same, recorded, known, sole⟩ := authorized
          obtain ⟨snapshot, loaded, read⟩ := Option.bind_eq_some_iff.mp found
          have inside := List.mem_of_find?_eq_some loaded
          have id : snapshot.id = supersedesRecordId := by simpa using List.find?_some loaded
          have own := (link?_recordId read).trans id
          refine Or.inr ⟨prior, List.mem_filterMap.mpr ⟨snapshot, inside, read⟩, ?_, same,
            ⟨recorded, known⟩, ?_⟩
          · rw [names, own]
          · rw [own]
            exact sole

theorem load_eq_none {id : String} (none : stored.load id = none) : ∀ snapshot ∈ stored, snapshot.id ≠ id :=
  fun snapshot inside same => absurd (decide_eq_true same) (List.find?_eq_none.mp none snapshot inside)

theorem save_ok {snapshot : Snapshot} (saved : stored.save snapshot = .ok after) :
    snapshot ∈ stored ∧ after = stored ∨
      (∀ other ∈ stored, other.id ≠ snapshot.id) ∧ after = stored ++ [snapshot] := by
  unfold Store.save at saved
  cases found : stored.load snapshot.id with
  | none =>
      rw [found] at saved
      cases saved
      exact Or.inr ⟨load_eq_none found, rfl⟩
  | some existing =>
      simp only [found, require_bind_ok, pure_eq_ok, Except.ok.injEq] at saved
      obtain ⟨rfl, rfl⟩ := saved
      exact Or.inl ⟨List.mem_of_find?_eq_some found, rfl⟩

/-- The assessment refers to the estimate, and has its confidence and its times. -/
structure Pairs (estimate : FairValueEstimateRecord) (assessment : ValuationAssessmentRecord) : Prop where
  references : assessment.fairValueEstimateRecordId = estimate.recordId
  confidence : assessment.confidence = estimate.valued.confidence
  logicalId : assessment.logicalId = estimate.logicalId
  effectiveAt : assessment.effectiveAt = estimate.effectiveAt
  recordedAt : assessment.recordedAt = estimate.recordedAt
  knownAt : assessment.knownAt = estimate.knownAt

abbrev EstimateLines (records : List FairValueEstimateRecord) : Prop :=
  Lines FairValueEstimateRecord.recordId FairValueEstimateRecord.supersedesRecordId
    FairValueEstimateRecord.logicalId (fun a b => Follows a.link b.link) records

abbrev AssessmentLines (records : List ValuationAssessmentRecord) : Prop :=
  Lines ValuationAssessmentRecord.recordId ValuationAssessmentRecord.supersedesRecordId
    ValuationAssessmentRecord.logicalId (fun a b => Follows a.link b.link) records

/-- The estimates and the assessments of each identity are lines, and stand in pairs. -/
structure Lockstep (stored : Store) : Prop where
  estimated : EstimateLines (estimates stored)
  assessed : AssessmentLines (assessments stored)
  paired : ∀ logicalId,
    List.Forall₂ Pairs (fairValueHistory stored logicalId) (valuationAssessmentHistory stored logicalId)
  recorded : ∀ record ∈ estimates stored, record.recordedAt ≤ record.knownAt

theorem forall₂_of_mem_right {α β : Type} {R : α → β → Prop} {xs : List α} {ys : List β}
    (related : List.Forall₂ R xs ys) {y : β} (member : y ∈ ys) : ∃ x ∈ xs, R x y := by
  induction related with
  | nil => exact absurd member List.not_mem_nil
  | cons here _ ih =>
      cases List.mem_cons.mp member with
      | inl same => exact ⟨_, List.mem_cons_self, same ▸ here⟩
      | inr later =>
          obtain ⟨x, inside, holds⟩ := ih later
          exact ⟨x, List.mem_cons_of_mem _ inside, holds⟩

theorem forall₂_of_mem_left {α β : Type} {R : α → β → Prop} {xs : List α} {ys : List β}
    (related : List.Forall₂ R xs ys) {x : α} (member : x ∈ xs) : ∃ y ∈ ys, R x y :=
  forall₂_of_mem_right related.flip member

/-- The pair that a call adds. -/
theorem Lockstep.append (lockstep : Lockstep stored) (pairs : Pairs estimate assessment)
    (recorded : estimate.recordedAt ≤ estimate.knownAt)
    (estimated : EstimateLines (estimates stored ++ [estimate]))
    (assessed : AssessmentLines (assessments stored ++ [assessment])) :
    Lockstep (stored ++ [.estimate estimate] ++ [.assessment assessment]) := by
  have left : estimates (stored ++ [.estimate estimate] ++ [.assessment assessment]) =
      estimates stored ++ [estimate] := by
    simp only [estimates, List.filterMap_append]
    exact List.append_nil _
  have right : assessments (stored ++ [.estimate estimate] ++ [.assessment assessment]) =
      assessments stored ++ [assessment] := by
    simp only [assessments, List.filterMap_append]
    exact congrArg (· ++ _) (List.append_nil _)
  refine ⟨left ▸ estimated, right ▸ assessed, fun logicalId => ?_, fun record member => ?_⟩
  · have old := lockstep.paired logicalId
    unfold fairValueHistory valuationAssessmentHistory at old ⊢
    rw [← estimates, ← assessments] at old ⊢
    rw [left, right, List.filter_append, List.filter_append]
    refine List.rel_append old ?_
    by_cases own : estimate.logicalId = logicalId
    · have own' : assessment.logicalId = logicalId := pairs.logicalId.trans own
      rw [List.filter_cons_of_pos (by simpa using own), List.filter_cons_of_pos (by simpa using own')]
      exact List.Forall₂.cons pairs List.Forall₂.nil
    · have own' : assessment.logicalId ≠ logicalId := fun same => own (pairs.logicalId.symm.trans same)
      rw [List.filter_cons_of_neg (by simpa using own), List.filter_cons_of_neg (by simpa using own')]
      exact List.Forall₂.nil
  · rw [left] at member
    cases List.mem_append.mp member with
    | inl old => exact lockstep.recorded record old
    | inr new => exact List.mem_singleton.mp new ▸ recorded

/-- A transaction adds a pair, or leaves the store as it is. -/
theorem Lockstep.persisted (lockstep : Lockstep stored) (pairs : Pairs estimate assessment)
    (recorded : estimate.recordedAt ≤ estimate.knownAt)
    (done : persist stored estimate assessment = .ok after) : Lockstep after := by
  simp only [persist, bind_ok, exists_unit] at done
  obtain ⟨estimated, assessed, saved, first, second⟩ := done
  have admits := authorizeCorrection_ok estimated
  rw [links_estimate] at admits
  have admits' := authorizeCorrection_ok assessed
  rw [links_assessment] at admits'
  cases save_ok first with
  | inl old =>
      obtain ⟨there, rfl⟩ := old
      -- the assessment of the stored estimate has the id of the new one
      have own : estimate ∈ fairValueHistory saved estimate.logicalId :=
        List.mem_filter.mpr ⟨mem_estimates.mpr there, decide_eq_true rfl⟩
      obtain ⟨other, listed, other_pairs⟩ := forall₂_of_mem_left (lockstep.paired _) own
      have member : other ∈ assessments saved := List.mem_of_mem_filter listed
      have again := lockstep.assessed.there_of_admits (fun below => below.1) admits'.of_map member
        (other_pairs.logicalId.trans pairs.logicalId.symm)
        (other_pairs.recordedAt.trans pairs.recordedAt.symm)
      obtain ⟨same, inside, id⟩ := List.mem_map.mp again
      cases save_ok second with
      | inl kept => exact kept.2 ▸ lockstep
      | inr new => exact absurd id (new.1 _ (mem_assessments.mp inside))
  | inr new =>
      obtain ⟨fresh, rfl⟩ := new
      have unseen : estimate.recordId ∉ (estimates stored).map FairValueEstimateRecord.recordId := by
        intro member
        obtain ⟨other, inside, same⟩ := List.mem_map.mp member
        exact fresh _ (mem_estimates.mp inside) same
      -- an assessment of an estimate that was not there was not there either
      have unassessed : assessment ∉ assessments stored := by
        intro member
        have own : assessment ∈ valuationAssessmentHistory stored assessment.logicalId :=
          List.mem_filter.mpr ⟨member, decide_eq_true rfl⟩
        obtain ⟨other, listed, other_pairs⟩ := forall₂_of_mem_right (lockstep.paired _) own
        refine unseen ?_
        rw [← pairs.references, other_pairs.references]
        exact List.mem_map_of_mem (List.mem_of_mem_filter listed)
      cases save_ok second with
      | inl kept =>
          cases List.mem_append.mp kept.1 with
          | inl old => exact absurd (mem_assessments.mpr old) unassessed
          | inr last => cases List.mem_singleton.mp last
      | inr new =>
          obtain ⟨fresh', rfl⟩ := new
          have unseen' : assessment.recordId ∉ (assessments stored).map ValuationAssessmentRecord.recordId := by
            intro member
            obtain ⟨other, inside, same⟩ := List.mem_map.mp member
            exact fresh' _ (List.mem_append_left _ (mem_assessments.mp inside)) same
          exact lockstep.append pairs recorded (lockstep.estimated.extend Follows.trans unseen admits.of_map)
            (lockstep.assessed.extend Follows.trans unseen' admits'.of_map)

/-- A call of the service, with what the evidence that was known comes to, or a row of another
type that another writer adds. -/
inductive ValuationEvent where
  | estimateFairValue (request : EstimateRequest) (known : Py Valued)
  | other (id : String) (payload : Json)

inductive ValuationStep : Store → ValuationEvent → Store → Prop where
  | estimateFairValue {stored : Store} {request : EstimateRequest} {known : Py Valued} :
      ValuationStep stored (.estimateFairValue request known) (estimateFairValue stored request known).2
  | other {stored after : Store} {id : String} {payload : Json}
      (saved : stored.save (.other id payload) = .ok after) : ValuationStep stored (.other id payload) after

theorem check_recorded (checked : estimate.check = .ok ()) : estimate.recordedAt ≤ estimate.knownAt := by
  simp only [FairValueEstimateRecord.check, bind_ok, exists_unit] at checked
  obtain ⟨-, -, -, -, -, -, -, _, -, _, -, -, -, -, -, -, -, chronology, -⟩ := checked
  exact require_ok.mp (require_bind_ok.mp chronology).2

theorem normalize_pairs (request : EstimateRequest) (valued : Valued) :
    Pairs (normalizeEstimate request valued) (normalizeAssessment request (normalizeEstimate request valued)) :=
  ⟨rfl, rfl, rfl, rfl, rfl, rfl⟩

theorem Lockstep.other {id : String} {payload : Json} (lockstep : Lockstep stored) :
    Lockstep (stored ++ [.other id payload]) := by
  have left : estimates (stored ++ [.other id payload]) = estimates stored := by
    rw [estimates, List.filterMap_append]
    exact List.append_nil _
  have right : assessments (stored ++ [.other id payload]) = assessments stored := by
    rw [assessments, List.filterMap_append]
    exact List.append_nil _
  refine ⟨left ▸ lockstep.estimated, right ▸ lockstep.assessed, fun logicalId => ?_, fun record member => ?_⟩
  · have old := lockstep.paired logicalId
    unfold fairValueHistory valuationAssessmentHistory at old ⊢
    rw [← estimates, ← assessments] at old ⊢
    rwa [left, right]
  · exact lockstep.recorded record (left ▸ member)

theorem lockstep_step {event : ValuationEvent} (lockstep : Lockstep stored)
    (step : ValuationStep stored event after) : Lockstep after := by
  cases step with
  | estimateFairValue =>
      refine committed_cases lockstep fun records after done => ?_
      simp only [recordValuation, bind_ok, exists_unit, pure_eq_ok, Except.ok.injEq, Prod.mk.injEq] at done
      obtain ⟨valued, -, checked, -, persisted, done, -, rfl⟩ := done
      exact lockstep.persisted (normalize_pairs _ _) (check_recorded checked) done
  | other saved =>
      cases save_ok saved with
      | inl old => exact old.2 ▸ lockstep
      | inr new => exact new.2 ▸ lockstep.other

theorem lockstep_run {events : List ValuationEvent} (lockstep : Lockstep stored)
    (run : Run ValuationStep stored events after) : Lockstep after :=
  run.preserves Lockstep (fun _ _ _ here step => lockstep_step here step) lockstep

theorem lockstep_empty (noEstimates : estimates stored = []) (noAssessments : assessments stored = []) :
    Lockstep stored := by
  refine ⟨noEstimates ▸ .nil, noAssessments ▸ .nil, fun logicalId => ?_, fun record member => ?_⟩
  · rw [fairValueHistory, valuationAssessmentHistory, ← estimates, ← assessments, noEstimates, noAssessments]
    exact List.Forall₂.nil
  · exact absurd (noEstimates ▸ member) List.not_mem_nil

/-- The last record that is known at a cutoff. -/
def lastKnown {α : Type} (times : α → Times) (records : List α) (knownBy : Moment) : Option α :=
  (records.filter fun record => (times record).knownAt ≤ knownBy).getLast?

/-- A replay of a line takes the last record that is known. -/
theorem strictKnown_last {α : Type} {times : α → Times} {before : α → α → Prop} {records : List α}
    {effectiveAsOf knownBy : Moment}
    (rising : Rising (fun a => (times a).recordId) (fun a => (times a).supersedesRecordId) before records)
    (rise : ∀ {a b}, before a b → (times a).knownAt < (times b).knownAt)
    (recorded : ∀ record ∈ records, (times record).recordedAt ≤ (times record).knownAt)
    (effective : ∀ record ∈ records, (times record).effectiveAt ≤ effectiveAsOf) :
    strictKnown times records effectiveAsOf knownBy = lastKnown times records knownBy := by
  have eligible : records.filter (fun item => decide ((times item).effectiveAt ≤ effectiveAsOf ∧
      (times item).recordedAt ≤ knownBy ∧ (times item).knownAt ≤ knownBy)) =
      records.filter fun item => (times item).knownAt ≤ knownBy := by
    refine List.filter_congr fun record member => decide_eq_decide.mpr ?_
    exact ⟨fun seen => seen.2.2, fun known => ⟨effective record member,
      (recorded record member).trans known, known⟩⟩
  have last := rising.head?_tips rise knownBy fun a b => decide ((times b).rank ≤ (times a).rank)
  simp only [strictKnown, eligible, List.mem_filterMap]
  exact last

theorem rel_getLast? {α β : Type} {R : α → β → Prop} {xs : List α} {ys : List β}
    (related : List.Forall₂ R xs ys) : Option.Rel R xs.getLast? ys.getLast? := by
  have back := List.forall₂_reverse_iff.mpr related
  rw [List.getLast?_eq_head?_reverse, List.getLast?_eq_head?_reverse]
  generalize xs.reverse = front at back
  generalize ys.reverse = others at back
  cases back with
  | nil => exact .none
  | cons here _ => exact .some here

/-- The last known records of paired lines are a pair. -/
theorem lastKnown_pairs {xs : List FairValueEstimateRecord} {ys : List ValuationAssessmentRecord}
    (paired : List.Forall₂ Pairs xs ys) (knownBy : Moment) :
    Option.Rel Pairs (lastKnown FairValueEstimateRecord.times xs knownBy)
      (lastKnown ValuationAssessmentRecord.times ys knownBy) := by
  refine rel_getLast? (List.rel_filter (fun estimate assessment pairs => ?_) paired)
  show decide (estimate.knownAt ≤ knownBy) = true ↔ decide (assessment.knownAt ≤ knownBy) = true
  rw [pairs.knownAt]

/-- The records of each identity after any run, what a call that raises leaves, and what a replay
answers. -/
theorem valuation_lockstep {start : Store} {events : List ValuationEvent}
    (noEstimates : estimates start = []) (noAssessments : assessments start = [])
    (run : Run ValuationStep start events stored) (logicalId : String) :
    Rising FairValueEstimateRecord.recordId FairValueEstimateRecord.supersedesRecordId
        (fun a b => Follows a.link b.link) (fairValueHistory stored logicalId) ∧
      Rising ValuationAssessmentRecord.recordId ValuationAssessmentRecord.supersedesRecordId
        (fun a b => Follows a.link b.link) (valuationAssessmentHistory stored logicalId) ∧
      List.Forall₂ Pairs (fairValueHistory stored logicalId) (valuationAssessmentHistory stored logicalId) ∧
      (∀ request known exn, (estimateFairValue stored request known).1 = .error exn →
        (estimateFairValue stored request known).2 = stored) ∧
      ∀ effectiveAsOf knownBy,
        (∀ record ∈ fairValueHistory stored logicalId, record.effectiveAt ≤ effectiveAsOf) →
        ∃ estimate assessment,
          strictKnown FairValueEstimateRecord.times (fairValueHistory stored logicalId) effectiveAsOf
            knownBy = estimate ∧
          strictKnown ValuationAssessmentRecord.times (valuationAssessmentHistory stored logicalId)
            effectiveAsOf knownBy = assessment ∧
          estimate = lastKnown FairValueEstimateRecord.times (fairValueHistory stored logicalId) knownBy ∧
          assessment = lastKnown ValuationAssessmentRecord.times
            (valuationAssessmentHistory stored logicalId) knownBy ∧
          Option.Rel Pairs estimate assessment := by
  have lockstep := lockstep_run (lockstep_empty noEstimates noAssessments) run
  have paired := lockstep.paired logicalId
  have estimated := lockstep.estimated.rising logicalId
  have assessed := lockstep.assessed.rising logicalId
  refine ⟨estimated, assessed, paired, fun request known exn => committed_error,
    fun effectiveAsOf knownBy effective => ?_⟩
  have recorded : ∀ record ∈ fairValueHistory stored logicalId, record.recordedAt ≤ record.knownAt :=
    fun record member => lockstep.recorded record (List.mem_of_mem_filter member)
  refine ⟨_, _, strictKnown_last estimated (fun below => below.2) recorded effective,
    strictKnown_last assessed (fun below => below.2) (fun record member => ?_) (fun record member => ?_),
    rfl, rfl, lastKnown_pairs paired knownBy⟩
  · obtain ⟨other, inside, pairs⟩ := forall₂_of_mem_right paired member
    show record.recordedAt ≤ record.knownAt
    rw [pairs.recordedAt, pairs.knownAt]
    exact recorded other inside
  · obtain ⟨other, inside, pairs⟩ := forall₂_of_mem_right paired member
    show record.effectiveAt ≤ effectiveAsOf
    rw [pairs.effectiveAt]
    exact effective other inside

theorem sample_texts :
    ∀ text ∈ ["e", "e", "e", "e", "e"], MarketValidation.blank text = false := by
  decide

def sampleIdentity : ValueCapture.EconomicClaimIdentity :=
  ⟨"e", "e", "e", "e", "e", "", "", sample_texts, ValueCapture.EconomicClaimIdentity.no_contract⟩

def sampleValued : Valued where
  currency := "usd"
  horizonDays := 365
  supplyBasisSelectionRule := "fully_diluted_supply"
  discountRatePolicyId := "p"
  discountRatePolicyVersion := "1"
  discountRateApplied := "0.15"
  fairValuePerDilutedUnitP10 := "1"
  fairValuePerDilutedUnitP50 := "1"
  fairValuePerDilutedUnitP90 := "1"
  totalDilutedValueP10 := "1"
  totalDilutedValueP50 := "1"
  totalDilutedValueP90 := "1"
  modelDispersionRatio := "0"
  confidence := "1"
  confidenceBase := "1"
  confidenceDispersionFactor := "1"
  confidenceFreshnessFactor := "1"
  methodologyRecordId := "m"
  methodologyRecordVersion := "1"
  evidenceRecordId := "v"
  evidenceRecordVersion := "1"
  ruleRecordId := "r"
  ruleRecordVersion := "1"
  supplyRecordId := "s"
  supplyRecordVersion := "1"
  marketFactRecordIds := ["f"]
  marketFactRecordVersions := ["1"]

def sampleRequest : EstimateRequest :=
  ⟨sampleIdentity, ⟨0, Calendar.zero_lt_end⟩, ⟨0, Calendar.zero_lt_end⟩, ⟨0, Calendar.zero_lt_end⟩,
    none, none, ""⟩

def sampleEstimate : FairValueEstimateRecord where
  recordId := "25e0e9fee2079624cf9263b8e697d9b5cc26aece026dae9420d6ff8a92b016cb"
  logicalId := "bc90fec25020aee93abdeff111250d43fedbc552d4109290f730f4ff37636702"
  identity := sampleIdentity
  effectiveAt := sampleRequest.effectiveAt
  recordedAt := sampleRequest.recordedAt
  knownAt := sampleRequest.knownAt
  valued := sampleValued
  contentHash := "da4717bad3392050d48d1a4271295cbe074a57d7b5671b04ef5d1045f4fe5711"
  supersedesRecordId := none
  correctionReason := ""

def sampleAssessment : ValuationAssessmentRecord where
  recordId := "eaf96ca437c0eaf2a4d0063cbee96da6bf5ca02c84a7e394ed4f50e7d46c3734"
  logicalId := sampleEstimate.logicalId
  identity := sampleIdentity
  effectiveAt := sampleRequest.effectiveAt
  recordedAt := sampleRequest.recordedAt
  knownAt := sampleRequest.knownAt
  fairValueEstimateRecordId := sampleEstimate.recordId
  fairValueEstimateRecordVersion := semanticVersion
  confidence := "1"
  contentHash := "00814c01f2301ded3f56dd65ba709365d2176a7345a4f1533c900473d114441d"
  supersedesRecordId := none
  correctionReason := ""

theorem sample_logicalId : logicalIdOf sampleIdentity "m" = sampleEstimate.logicalId := by
  rw [logicalIdOf, sha256]
  decide +kernel

theorem sample_estimateHash :
    sha256 (Json.asciiDumps (estimateContent sampleRequest sampleValued sampleEstimate.logicalId)) =
      sampleEstimate.contentHash := by
  rw [Json.asciiDumps, sha256_ofList]
  decide +kernel

theorem sample_assessmentHash :
    sha256 (Json.asciiDumps (assessmentContent sampleRequest sampleEstimate)) = sampleAssessment.contentHash := by
  rw [Json.asciiDumps, sha256_ofList]
  decide +kernel

theorem sample_recordIds :
    sha256 (sampleEstimate.logicalId ++ ":" ++ sampleEstimate.contentHash) = sampleEstimate.recordId ∧
      sha256 (sampleEstimate.logicalId ++ ":" ++ sampleAssessment.contentHash) = sampleAssessment.recordId := by
  rw [sha256, sha256]
  decide +kernel

theorem sample_estimate : normalizeEstimate sampleRequest sampleValued = sampleEstimate := by
  rw [normalizeEstimate]
  simp only [show logicalIdOf sampleRequest.identity sampleValued.methodologyRecordId =
    sampleEstimate.logicalId from sample_logicalId, sample_estimateHash, sample_recordIds.1]
  rfl

theorem sample_assessment : normalizeAssessment sampleRequest sampleEstimate = sampleAssessment := by
  rw [normalizeAssessment]
  simp only [sample_assessmentHash, sample_recordIds.2]
  rfl

theorem sample_checks : sampleEstimate.check = .ok () ∧ sampleAssessment.check = .ok () := by
  decide +kernel

def sampleStore : Store := [.estimate sampleEstimate, .assessment sampleAssessment]

/-- The first call adds the two records, and the same call again leaves them. -/
theorem sample_recorded {stored : Store}
    (persisted : persist stored sampleEstimate sampleAssessment = .ok sampleStore) :
    ValuationStep stored (.estimateFairValue sampleRequest (.ok sampleValued)) sampleStore := by
  have done : recordValuation stored sampleRequest (.ok sampleValued) =
      .ok ((sampleEstimate, sampleAssessment), sampleStore) := by
    rw [recordValuation, ok_bind]
    simp only [sample_estimate, sample_assessment, sample_checks.1, sample_checks.2, persisted, ok_bind]
    rfl
  have step := @ValuationStep.estimateFairValue stored sampleRequest (.ok sampleValued)
  rwa [estimateFairValue, done] at step

/-- A call, and the same call again: each history holds its one record. -/
theorem valuation_lockstep_sample :
    Run ValuationStep [] [.estimateFairValue sampleRequest (.ok sampleValued),
      .estimateFairValue sampleRequest (.ok sampleValued)] sampleStore ∧
      fairValueHistory sampleStore (logicalIdOf sampleIdentity "m") = [sampleEstimate] ∧
      valuationAssessmentHistory sampleStore (logicalIdOf sampleIdentity "m") = [sampleAssessment] ∧
      List.Forall₂ Pairs (fairValueHistory sampleStore (logicalIdOf sampleIdentity "m"))
        (valuationAssessmentHistory sampleStore (logicalIdOf sampleIdentity "m")) := by
  have run : Run ValuationStep [] [.estimateFairValue sampleRequest (.ok sampleValued),
      .estimateFairValue sampleRequest (.ok sampleValued)] sampleStore :=
    .cons (sample_recorded (by decide)) (.cons (sample_recorded (by decide)) .nil)
  refine ⟨run, ?_, ?_, (valuation_lockstep rfl rfl run _).2.2.1⟩
  · rw [sample_logicalId]
    decide
  · rw [sample_logicalId]
    decide

end Hunter.Valuation
