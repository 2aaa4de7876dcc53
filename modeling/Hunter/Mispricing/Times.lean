import Mathlib
import Hunter.Mispricing.Assessment

/-!
The distance of two times in whole days. Rounding down makes a positive difference smaller
and a negative one larger, so the distance depends on which of the two times is the earlier
one, unless they are whole days apart or too far apart either way.
-/

namespace Hunter.Mispricing

open Calendar Fallible
open MarketValidation (blank)
open ValueCapture (EconomicClaimIdentity)

variable {methodology : MispricingMethodologySnapshot} {fairValue : FairValueEstimateRecord}
  {fact : ObservedMarketFactRecord} {request : Request} {lower : List Char → List Char}

/-- Whole days apart, or a day further apart than is tolerated. -/
def Regular (tolerance : Nat) (first second : Moment) : Prop :=
  (microsPerDay : Int) ∣ (first.val : Int) - second.val ∨ (tolerance + 1) * microsPerDay ≤ distance first second

theorem days_symm {first second : Moment} (whole : (microsPerDay : Int) ∣ (first.val : Int) - second.val) :
    (days second first).natAbs = (days first second).natAbs := by
  unfold days
  rw [← Int.neg_sub, Int.neg_ediv_of_dvd whole, Int.natAbs_neg]

theorem days_le_of_whole {first second : Moment} {tolerance : Nat}
    (whole : (microsPerDay : Int) ∣ (first.val : Int) - second.val) :
    (days first second).natAbs ≤ tolerance ↔ distance first second ≤ tolerance * microsPerDay := by
  obtain ⟨quotient, same⟩ := whole
  have positive : 0 < microsPerDay := by decide
  unfold days distance
  rw [same, Int.mul_ediv_cancel_left _ (by omega), Int.natAbs_mul, Int.natAbs_natCast, Nat.mul_comm microsPerDay]
  exact (Nat.mul_le_mul_right_iff positive).symm

theorem days_far {first second : Moment} {tolerance : Nat}
    (far : (tolerance + 1) * microsPerDay ≤ distance first second) : tolerance < (days first second).natAbs := by
  have day : microsPerDay = 86400000000 := by decide
  unfold distance at far
  unfold days
  generalize (first.val : Int) = a at *
  generalize (second.val : Int) = b at *
  rw [day] at far ⊢
  omega

theorem distance_comm (first second : Moment) : distance second first = distance first second := by
  unfold distance
  omega

theorem Regular.near {first second : Moment} {tolerance : Nat} (regular : Regular tolerance first second) :
    (days first second).natAbs ≤ tolerance ↔ distance first second ≤ tolerance * microsPerDay := by
  cases regular with
  | inl whole => exact days_le_of_whole whole
  | inr far =>
      have apart := days_far far
      have day : 0 < microsPerDay := by decide
      rw [Nat.add_mul] at far
      exact iff_of_false (by omega) (by omega)

/-- Without rounding down the two distances differ by a day. -/
theorem days_irregular {first second : Moment} {tolerance : Nat} (irregular : ¬Regular tolerance first second) :
    distance first second < (tolerance + 1) * microsPerDay ∧
      ((days first second).natAbs = distance first second / microsPerDay ∧
          (days second first).natAbs = distance first second / microsPerDay + 1 ∨
        (days first second).natAbs = distance first second / microsPerDay + 1 ∧
          (days second first).natAbs = distance first second / microsPerDay) := by
  have day : microsPerDay = 86400000000 := by decide
  obtain ⟨broken, near⟩ := not_or.mp irregular
  refine ⟨Nat.lt_of_not_le near, ?_⟩
  unfold days distance
  generalize (first.val : Int) = a at *
  generalize (second.val : Int) = b at *
  rw [day] at broken ⊢
  omega

theorem requiredText_ok {fields : List (String × String)} (named : ∀ field ∈ fields, blank field.2 = false) :
    requiredText fields = .ok () := by
  have none : fields.find? (fun field => blank field.2) = none :=
    List.find?_eq_none.mpr fun field there => by rw [named field there]; decide
  unfold requiredText
  rw [none]

theorem made_ok (methodologyRecordId version : String) (raw : Option RawValues) (state : AvailabilityState)
    (checked : ∀ values ∈ raw, values.confidence.check = .ok () ∧ values.check = .ok () ∧
      ∀ text ∈ [methodologyRecordId, version, values.fairValueRecordId, values.fairValueRecordVersion,
        values.marketFactRecordId, values.marketFactRecordVersion], blank text = false) :
    made request methodologyRecordId version raw state = .ok ⟨request.identity, methodologyRecordId, version, raw,
      state, request.effectiveAt, request.recordedAt, request.knownAt, request.supersedesRecordId,
      request.correctionReason⟩ := by
  have correction : (request.supersedesRecordId = none ∨ request.supersedesRecordId = some "") ↔
      blank request.correctionReason = true := request.correction
  refine bind_ok.mpr ⟨(), bind_ok.mpr ⟨(), ?_, require_bind_ok.mpr ⟨request.chronology.1,
    require_bind_ok.mpr ⟨request.chronology.2, require_of correction⟩⟩⟩, rfl⟩
  cases raw with
  | none => rfl
  | some values =>
      obtain ⟨confidence, numbers, named⟩ := checked values rfl
      refine bind_ok.mpr ⟨(), confidence, bind_ok.mpr ⟨(), requiredText_ok fun field there => ?_, numbers⟩⟩
      refine named field.2 ?_
      simp only [List.mem_cons, List.not_mem_nil, or_false] at there ⊢
      rcases there with rfl | rfl | rfl | rfl | rfl | rfl <;> simp

theorem unavailable_ok (state : AvailabilityState) : unavailable request methodology state =
    .ok ⟨request.identity, methodology.recordId, methodology.semanticVersion, none, state, request.effectiveAt,
      request.recordedAt, request.knownAt, request.supersedesRecordId, request.correctionReason⟩ :=
  made_ok _ _ none state fun _ there => by cases there

theorem timestampConfidence_bounds (distance tolerance : Nat) :
    0 ≤ timestampConfidence distance tolerance ∧ timestampConfidence distance tolerance ≤ 1 := by
  refine ⟨le_max_left _ _, max_le zero_le_one (sub_le_self 1 ?_)⟩
  exact div_nonneg (le_min (Nat.cast_nonneg _) (Nat.cast_nonneg _)) (Nat.cast_nonneg _)

/-- The confidence in what is compared, at a distance. -/
def confidenceAt (fairValue : FairValueEstimateRecord) (fact : ObservedMarketFactRecord) (timestamp : ℚ) :
    Confidence :=
  let dispersion := max 0 (1 - min fairValue.modelDispersionRatio.value 1)
  ⟨fairValue.confidence.value, fact.confidence.value, dispersion, timestamp,
    min (min (min fairValue.confidence.value fact.confidence.value) dispersion) timestamp⟩

theorem confidenceComponents_ok (dispersed : 0 ≤ fairValue.modelDispersionRatio.value) (distance : Nat) :
    confidenceComponents fairValue fact distance methodology =
      .ok (confidenceAt fairValue fact (timestampConfidence distance methodology.timestampToleranceDays)) :=
  require_bind_ok.mpr ⟨fairValue.bounded, require_bind_ok.mpr ⟨fact.bounded,
    require_bind_ok.mpr ⟨dispersed, rfl⟩⟩⟩

theorem confidenceAt_check {timestamp : ℚ} (dispersed : 0 ≤ fairValue.modelDispersionRatio.value)
    (bounds : 0 ≤ timestamp ∧ timestamp ≤ 1) :
    (confidenceAt fairValue fact timestamp).check = .ok () := by
  have dispersion : 0 ≤ max 0 (1 - min fairValue.modelDispersionRatio.value 1) ∧
      max 0 (1 - min fairValue.modelDispersionRatio.value 1) ≤ (1 : ℚ) :=
    ⟨le_max_left _ _, max_le zero_le_one (sub_le_self 1 (le_min dispersed zero_le_one))⟩
  have overall : 0 ≤ (confidenceAt fairValue fact timestamp).overall ∧
      (confidenceAt fairValue fact timestamp).overall ≤ 1 :=
    ⟨le_min (le_min (le_min fairValue.bounded.1 fact.bounded.1) dispersion.1) bounds.1,
      (min_le_right _ _).trans bounds.2⟩
  exact require_bind_ok.mpr ⟨fairValue.bounded, require_bind_ok.mpr ⟨fact.bounded, require_bind_ok.mpr
    ⟨dispersion, require_bind_ok.mpr ⟨bounds, require_bind_ok.mpr ⟨overall, require_of (le_refl _)⟩⟩⟩⟩⟩

/-- The numbers of a comparison. -/
def valuesOf (methodology : MispricingMethodologySnapshot) (fairValue : FairValueEstimateRecord)
    (fact : ObservedMarketFactRecord) : RawValues :=
  let price := fact.value.value
  let p10 := fairValue.fairValuePerDilutedUnitP10.value
  let p50 := fairValue.fairValuePerDilutedUnitP50.value
  let p90 := fairValue.fairValuePerDilutedUnitP90.value
  { fairValueRecordId := fairValue.recordId
    fairValueRecordVersion := fairValue.semanticVersion
    marketFactRecordId := fact.recordId
    marketFactRecordVersion := fact.semanticVersion
    fairValueP10 := p10
    fairValueP50 := p50
    fairValueP90 := p90
    observedMarketPrice := price
    rawSignedRatio := (p50 - price) / price
    uncertaintyIntervalLower := (p10 - price) / price
    uncertaintyIntervalUpper := (p90 - price) / price
    confidence := confidenceAt fairValue fact
      (timestampConfidence (timestampDistance fairValue fact) methodology.timestampToleranceDays) }

theorem ratio_ge {value price : ℚ} (positive : 0 < price) (given : 0 ≤ value) : -1 ≤ (value - price) / price := by
  rw [le_div_iff₀ positive]
  linarith

theorem ratio_le {low high price : ℚ} (positive : 0 < price) (ordered : low ≤ high) :
    (low - price) / price ≤ (high - price) / price :=
  div_le_div_of_nonneg_right (sub_le_sub_right ordered price) positive.le

theorem compared_ok (price : 0 < fact.value.value) (dispersed : 0 ≤ fairValue.modelDispersionRatio.value) :
    compared request methodology fairValue fact =
    .ok ⟨request.identity, methodology.recordId, methodology.semanticVersion,
      some (valuesOf methodology fairValue fact), .uncalibratedNormalization, request.effectiveAt,
      request.recordedAt, request.knownAt, request.supersedesRecordId, request.correctionReason⟩ := by
  obtain ⟨low, middle, high⟩ := fairValue.quantiles
  refine bind_ok.mpr ⟨_, confidenceComponents_ok dispersed _,
    made_ok _ _ (some (valuesOf methodology fairValue fact)) _ ?_⟩
  intro values there
  cases there
  refine ⟨confidenceAt_check dispersed (timestampConfidence_bounds _ _), ?_, ?_⟩
  · refine require_bind_ok.mpr ⟨price, require_bind_ok.mpr ⟨low, require_bind_ok.mpr ⟨low.trans middle,
      require_bind_ok.mpr ⟨(low.trans middle).trans high, require_bind_ok.mpr ⟨?_, ?_⟩⟩⟩⟩⟩
    · exact ratio_ge price (low.trans middle)
    · exact require_bind_ok.mpr ⟨rfl, require_bind_ok.mpr ⟨rfl, require_of rfl⟩⟩
  · intro text there
    simp only [List.mem_cons, List.not_mem_nil, or_false] at there
    rcases there with rfl | rfl | rfl | rfl | rfl | rfl
    · exact methodology.texts _ (by simp)
    · exact methodology.texts _ (by simp)
    · exact fairValue.texts _ (by simp [valuesOf])
    · exact fairValue.texts _ (by simp [valuesOf])
    · exact fact.texts _ (by simp [valuesOf])
    · exact fact.texts _ (by simp [valuesOf])

theorem valuesOf_sound (price : 0 < fact.value.value) : Sound (valuesOf methodology fairValue fact) := by
  obtain ⟨low, middle, high⟩ := fairValue.quantiles
  refine ⟨⟨ratio_ge price low, ratio_le price middle, ratio_le price high⟩, ?_, ?_, ?_, ?_⟩
  · exact ((min_le_left _ _).trans (min_le_left _ _)).trans (min_le_left _ _)
  · exact ((min_le_left _ _).trans (min_le_left _ _)).trans (min_le_right _ _)
  · exact (min_le_left _ _).trans (min_le_right _ _)
  · exact min_le_right _ _

theorem Passes.assess (passes : Passes lower methodology fairValue fact request) :
    assess lower (some methodology) (some fairValue) (some fact) request =
      if methodology.timestampToleranceDays < timestampDistance fairValue fact then
        unavailable request methodology .incompatibleTimes
      else compared request methodology fairValue fact := by
  unfold Mispricing.assess
  rw [passes.authoritative]
  dsimp only
  rw [if_neg (not_not.mpr passes.formula), if_neg (not_not.mpr passes.identity),
    if_neg (not_not.mpr passes.currency), if_neg (not_not.mpr passes.supplyBasis),
    if_neg (by rw [passes.settled]; decide),
    if_neg (by rw [passes.factIdentity.1, passes.factIdentity.2]; simp), if_neg (not_not.mpr passes.factCurrency),
    if_neg (by rw [passes.factSettled]; decide), if_neg (not_le.mpr passes.price)]

/-- What is decided at a distance of whole days. -/
def decidedAt (tolerance distance : Nat) : AvailabilityState × Option ℚ :=
  if tolerance < distance then (.incompatibleTimes, none)
  else (.uncalibratedNormalization, some (timestampConfidence distance tolerance))

theorem Passes.decision (passes : Passes lower methodology fairValue fact request) :
    (Mispricing.assess lower (some methodology) (some fairValue) (some fact) request).map decisionOf =
      .ok (decidedAt methodology.timestampToleranceDays (timestampDistance fairValue fact)) := by
  rw [passes.assess]
  unfold decidedAt
  split
  · rw [unavailable_ok]
    rfl
  · rw [compared_ok passes.price passes.dispersion]
    rfl

theorem Passes.computed (passes : Passes lower methodology fairValue fact request) :
    (∃ record, Mispricing.assess lower (some methodology) (some fairValue) (some fact) request = .ok record ∧
      record.raw ≠ none) ↔ timestampDistance fairValue fact ≤ methodology.timestampToleranceDays := by
  rw [passes.assess]
  split
  · rename_i far
    rw [unavailable_ok]
    refine iff_of_false ?_ (not_le.mpr far)
    rintro ⟨record, same, raw⟩
    cases same
    exact raw rfl
  · rename_i near
    rw [compared_ok passes.price passes.dispersion]
    exact iff_of_true ⟨_, rfl, nofun⟩ (not_lt.mp near)

theorem Passes.exchanged (passes : Passes lower methodology fairValue fact request) : Passes lower methodology
    { fairValue with effectiveAt := fact.effectiveAt } { fact with effectiveAt := fairValue.effectiveAt } request :=
  ⟨passes.authoritative, passes.formula, passes.identity, passes.currency, passes.supplyBasis, passes.settled,
    passes.factIdentity, passes.factCurrency, passes.factSettled, passes.price, passes.dispersion⟩

theorem timestampConfidence_ne {near far tolerance : Nat} (further : near < far) (inside : far ≤ tolerance) :
    timestampConfidence far tolerance ≠ timestampConfidence near tolerance := by
  have positive : (0 : ℚ) < tolerance := Nat.cast_pos.mpr (by omega)
  have close : ∀ n ≤ tolerance, timestampConfidence n tolerance = 1 - n / tolerance := by
    intro n within
    unfold timestampConfidence
    rw [min_eq_left (Nat.cast_le.mpr within), max_eq_right]
    rw [sub_nonneg, div_le_one positive]
    exact Nat.cast_le.mpr within
  rw [close far inside, close near (further.le.trans inside)]
  refine ne_of_lt (sub_lt_sub_left ?_ 1)
  exact div_lt_div_of_pos_right (Nat.cast_lt.mpr further) positive

theorem decidedAt_inj {near far tolerance : Nat} (further : near < far) (inside : near ≤ tolerance) :
    decidedAt tolerance far ≠ decidedAt tolerance near := by
  unfold decidedAt
  rw [if_neg (not_lt.mpr inside)]
  split
  · nofun
  · rename_i reached
    intro same
    exact timestampConfidence_ne further (not_lt.mp reached) (Option.some.inj (congrArg Prod.snd same))

/-- Exactly for instants that are whole days apart, or a day more than is tolerated, the times are
compared by their distance. -/
theorem comparesTimes_iff (passes : Passes lower methodology fairValue fact request) :
    ComparesTimes lower methodology fairValue fact request ↔
      Regular methodology.timestampToleranceDays fairValue.effectiveAt fact.effectiveAt := by
  have exchanged := passes.exchanged.decision
  constructor
  · intro compares
    by_contra irregular
    obtain ⟨below, apart⟩ := days_irregular irregular
    have same := compares.exchange
    rw [exchanged, passes.decision] at same
    have same := Except.ok.inj same
    have inside : distance fairValue.effectiveAt fact.effectiveAt / microsPerDay ≤
        methodology.timestampToleranceDays :=
      Nat.le_of_lt_succ (Nat.div_lt_of_lt_mul (Nat.mul_comm _ microsPerDay ▸ below))
    unfold timestampDistance at same
    dsimp only at same
    rcases apart with ⟨first, second⟩ | ⟨first, second⟩
    · rw [first, second] at same
      exact decidedAt_inj (Nat.lt_succ_self _) inside same
    · rw [first, second] at same
      exact decidedAt_inj (Nat.lt_succ_self _) inside same.symm
  · intro regular
    refine ⟨passes.computed.trans regular.near, ?_, fun record raw done there => ?_⟩
    · rw [exchanged, passes.decision]
      refine congrArg Except.ok ?_
      unfold timestampDistance
      cases regular with
      | inl whole => rw [days_symm whole]
      | inr far =>
          unfold decidedAt
          rw [if_pos (days_far far), if_pos (days_far (distance_comm _ _ ▸ far))]
    · rw [passes.assess] at done
      split at done
      · rw [unavailable_ok] at done
        cases done
        cases there
      · rw [compared_ok passes.price passes.dispersion] at done
        cases done
        cases there
        exact valuesOf_sound passes.price

def halfDays (n : Fin 100) : Moment :=
  ⟨n.val * 43200000000, by have := n.isLt; unfold microsPerDay microsPerSecond; omega⟩

def sampleIdentity : EconomicClaimIdentity :=
  { entityId := "entity", economicClaimId := "claim", assetId := "asset", representationId := "token"
    tokenId := "token", chain := "", contractAddress := "", texts := by decide
    contract := EconomicClaimIdentity.no_contract }

def sampleMethodology : MispricingMethodologySnapshot :=
  { recordId := "methodology", semanticVersion := "1.0.0", formulaVersion := supportedFormulaVersion
    timestampToleranceDays := 7, requiredQuoteCurrency := "usd", requiredSupplyBasis := "fully_diluted_supply"
    effectiveAt := halfDays 0, recordedAt := halfDays 0, knownAt := halfDays 0, qualityState := .accepted
    conflictState := .none, texts := by decide, tolerance := rfl, supplyBasis := rfl }

def sampleFairValue : FairValueEstimateRecord :=
  { recordId := "estimate", logicalId := "estimates", semanticVersion := "1.0.0", identity := sampleIdentity
    currency := "usd", supplyBasisSelectionRule := "fully_diluted_supply"
    fairValuePerDilutedUnitP10 := ⟨false, 1, 0⟩, fairValuePerDilutedUnitP50 := ⟨false, 2, 0⟩
    fairValuePerDilutedUnitP90 := ⟨false, 3, 0⟩, modelDispersionRatio := ⟨false, 1, 0⟩
    confidence := ⟨false, 1, 0⟩, effectiveAt := halfDays 15, conflictState := .none, texts := by decide
    quantiles := by decide +kernel, bounded := by decide +kernel }

/-- A price that was observed at the given time. -/
def sampleFact (effectiveAt : Moment) : ObservedMarketFactRecord :=
  { recordId := "fact", semanticVersion := "1.0.0", entityId := "entity", representationId := "token"
    value := ⟨false, 2, 0⟩, quoteCurrency := some "usd", confidence := ⟨false, 1, 0⟩, effectiveAt
    conflictState := .none, texts := by decide, bounded := by decide +kernel }

def sampleRequest : Request :=
  { identity := sampleIdentity, methodologyRecordId := "methodology", effectiveAt := halfDays 20
    recordedAt := halfDays 20, knownAt := halfDays 20, supersedesRecordId := none, correctionReason := ""
    chronology := ⟨le_refl _, le_refl _⟩, correction := by unfold ValueCapture.correctionGiven; decide }

theorem sample_passes (effectiveAt : Moment) :
    Passes Chars.lower sampleMethodology sampleFairValue (sampleFact effectiveAt) sampleRequest where
  authoritative := rfl
  formula := rfl
  identity := ⟨rfl, rfl, rfl⟩
  currency := rfl
  supplyBasis := rfl
  settled := rfl
  factIdentity := ⟨rfl, rfl⟩
  factCurrency := rfl
  factSettled := rfl
  price := by
    show (0 : ℚ) < Decimal.value ⟨false, 2, 0⟩
    decide +kernel
  dispersion := by decide +kernel

/-- A week apart. -/
theorem comparesTimes_sample :
    ComparesTimes Chars.lower sampleMethodology sampleFairValue (sampleFact (halfDays 1)) sampleRequest :=
  (comparesTimes_iff (sample_passes (halfDays 1))).mpr (Or.inl ⟨7, by decide⟩)

/-- Seven days and a half are taken for seven. -/
theorem comparesTimes_fails :
    Passes Chars.lower sampleMethodology sampleFairValue (sampleFact (halfDays 0)) sampleRequest ∧
    ¬ComparesTimes Chars.lower sampleMethodology sampleFairValue (sampleFact (halfDays 0)) sampleRequest := by
  have passes := sample_passes (halfDays 0)
  refine ⟨passes, fun compares => ?_⟩
  have near := compares.decision.mp (passes.computed.mpr (by decide))
  exact absurd near (by decide)

end Hunter.Mispricing
