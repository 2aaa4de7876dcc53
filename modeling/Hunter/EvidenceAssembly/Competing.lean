import Hunter.EvidenceAssembly.Exact

/-!
The disclosures that compete with an assembly. A record that is left out is compared with the
first constituent only, so a disclosure of the shape of another constituent is not seen. Where
the constituents have one shape, every competing disclosure belongs to a coarser series that
covers the window. The search finds each series once, in whatever order the candidates come.
-/

namespace Hunter.EvidenceAssembly

open Calendar Fallible Firsts Tiling
open MarketValidation (blank)
open ValueCapture (EconomicClaimIdentity FundamentalEvidenceRecord)

def periodOf (record : FundamentalEvidenceRecord) : Moment × Moment :=
  (record.accountingPeriodStart, record.accountingPeriodEnd)

/-- Different records that go from one time to another without a gap. -/
structure Series (start finish : Moment) (path : List FundamentalEvidenceRecord) : Prop where
  tiles : Tiles finish start (path.map periodOf)
  distinct : (path.map (·.recordId)).Nodup

section

variable {start finish cursor : Moment} {record : FundamentalEvidenceRecord}
  {path available : List FundamentalEvidenceRecord}

theorem periods_forward : ∀ period ∈ path.map periodOf, period.1 ≤ period.2 := by
  intro period member
  obtain ⟨record, -, rfl⟩ := List.mem_map.mp member
  exact record.period

theorem Series.within (series : Series start finish path) (inside : record ∈ path) :
    start ≤ record.accountingPeriodStart ∧ record.accountingPeriodEnd ≤ finish :=
  (series.tiles.le periods_forward).2 (periodOf record) (List.mem_map_of_mem inside)

theorem series_cons : Series cursor finish (record :: path) ↔
    record.accountingPeriodStart = cursor ∧ record.recordId ∉ path.map (·.recordId) ∧
      Series record.accountingPeriodEnd finish path := by
  constructor
  · rintro ⟨⟨begins, tiles⟩, distinct⟩
    obtain ⟨fresh, distinct⟩ := List.nodup_cons.mp distinct
    exact ⟨begins, fresh, tiles, distinct⟩
  · rintro ⟨begins, fresh, tiles, distinct⟩
    exact ⟨⟨begins, tiles⟩, List.nodup_cons.mpr ⟨fresh, distinct⟩⟩

theorem mem_others {other : FundamentalEvidenceRecord} :
    other ∈ others record available ↔ other ∈ available ∧ other.recordId ≠ record.recordId := by
  rw [others, List.mem_filter, decide_eq_true_eq]

theorem coveragePaths_done : coveragePaths finish finish available = [[]] := by
  rw [coveragePaths, if_pos rfl]

theorem coveragePaths_step (running : cursor ≠ finish) : coveragePaths finish cursor available =
    available.flatMap fun record =>
      if record.accountingPeriodStart = cursor ∧ record.accountingPeriodEnd ≤ finish then
        (coveragePaths finish record.accountingPeriodEnd (others record available)).map (record :: ·)
      else [] := by
  rw [coveragePaths, if_neg running]
  refine (List.flatMap_subtype (g := fun record =>
    if record.accountingPeriodStart = cursor ∧ record.accountingPeriodEnd ≤ finish then
      (coveragePaths finish record.accountingPeriodEnd (others record available)).map (record :: ·)
    else []) fun _ _ => rfl).trans ?_
  rw [List.unattach_attach]

theorem mem_coveragePaths_step (running : cursor ≠ finish) : path ∈ coveragePaths finish cursor available ↔
    ∃ record ∈ available, record.accountingPeriodStart = cursor ∧ record.accountingPeriodEnd ≤ finish ∧
      ∃ rest ∈ coveragePaths finish record.accountingPeriodEnd (others record available),
        record :: rest = path := by
  rw [coveragePaths_step running, List.mem_flatMap]
  refine exists_congr fun record => and_congr_right fun _ => ?_
  by_cases fits : record.accountingPeriodStart = cursor ∧ record.accountingPeriodEnd ≤ finish
  · rw [if_pos fits, List.mem_map, ← and_assoc, and_iff_right fits]
  · rw [if_neg fits, ← and_assoc]
    exact iff_of_false List.not_mem_nil fun found => fits found.1

/-- The search finds the series of the records that stop at the finish. -/
theorem mem_coveragePaths : path ∈ coveragePaths finish cursor available ↔
    Series cursor finish path ∧ ∀ record ∈ path, record ∈ available ∧ record.accountingPeriodStart ≠ finish := by
  induction path generalizing cursor available with
  | nil =>
      by_cases done : cursor = finish
      · rw [done, coveragePaths_done]
        exact ⟨fun _ => ⟨⟨rfl, List.nodup_nil⟩, fun _ absent => absurd absent List.not_mem_nil⟩,
          fun _ => List.mem_singleton_self _⟩
      · rw [mem_coveragePaths_step done]
        constructor
        · rintro ⟨_, _, _, _, _, _, impossible⟩
          cases impossible
        · exact fun covers => absurd covers.1.tiles done
  | cons record path ih =>
      by_cases done : cursor = finish
      · rw [done, coveragePaths_done, List.mem_singleton]
        constructor
        · intro impossible
          cases impossible
        · rintro ⟨series, stops⟩
          have begins := (series_cons.mp series).1
          exact absurd begins (stops record List.mem_cons_self).2
      · rw [mem_coveragePaths_step done]
        constructor
        · rintro ⟨head, inside, begins, -, rest, found, equal⟩
          obtain ⟨rfl, rfl⟩ := List.cons.inj equal
          obtain ⟨series, stops⟩ := ih.mp found
          have fresh : head.recordId ∉ rest.map (·.recordId) := by
            intro again
            obtain ⟨other, member, same⟩ := List.mem_map.mp again
            exact (mem_others.mp (stops other member).1).2 same
          refine ⟨series_cons.mpr ⟨begins, fresh, series⟩, List.forall_mem_cons.mpr ⟨⟨inside, ?_⟩, ?_⟩⟩
          · rwa [begins]
          · exact fun other member => ⟨(mem_others.mp (stops other member).1).1, (stops other member).2⟩
        · rintro ⟨whole, stops⟩
          obtain ⟨begins, fresh, series⟩ := series_cons.mp whole
          obtain ⟨⟨inside, -⟩, stops⟩ := List.forall_mem_cons.mp stops
          have ends := (whole.within List.mem_cons_self).2
          refine ⟨record, inside, begins, ends, path, ih.mpr ⟨series, fun other member => ?_⟩, rfl⟩
          refine ⟨mem_others.mpr ⟨(stops other member).1, fun same => fresh ?_⟩, (stops other member).2⟩
          exact List.mem_map.mpr ⟨other, member, same⟩

/-- The search finds no series twice. -/
theorem nodup_coveragePaths {cursor : Moment} {available : List FundamentalEvidenceRecord}
    (distinct : available.Nodup) : (coveragePaths finish cursor available).Nodup := by
  by_cases done : cursor = finish
  · rw [done, coveragePaths_done]
    exact List.nodup_singleton _
  · rw [coveragePaths_step done, List.nodup_flatMap]
    constructor
    · intro record inside
      split
      case isTrue =>
        have fewer : (others record available).Nodup := distinct.filter _
        exact (nodup_coveragePaths fewer).map (List.cons_injective)
      case isFalse => exact List.nodup_nil
    · refine distinct.imp fun {a b} apart => List.disjoint_left.mpr fun path first second => apart ?_
      have head : ∀ {c : FundamentalEvidenceRecord}, path ∈ (if c.accountingPeriodStart = cursor ∧
          c.accountingPeriodEnd ≤ finish then
            (coveragePaths finish c.accountingPeriodEnd (others c available)).map (c :: ·)
          else []) → path.head? = some c := by
        intro c found
        split at found
        case isTrue =>
          obtain ⟨rest, -, rfl⟩ := List.mem_map.mp found
          rfl
        case isFalse => exact absurd found List.not_mem_nil
      exact Option.some.inj ((head first).symm.trans (head second))
termination_by available.length
decreasing_by exact length_others_lt inside

end

variable {authorities : Authorities} {request : AssemblyRequest} {items : List AssemblyConstituent}
  {record : FundamentalEvidenceRecord} {path : List FundamentalEvidenceRecord}

/-- What the authority returns for the claim of a constituent. -/
def candidates (authorities : Authorities) (request : AssemblyRequest) (item : AssemblyConstituent) :
    List FundamentalEvidenceRecord :=
  authorities.overlappingEvidence item.record.identity.entityId item.record.identity.economicClaimId
    request.accountingWindowStart.instant request.accountingWindowEnd.instant request.replayCutoff

/-- The record is accepted and known, is not selected and is no duplicate of a selected one. -/
def LeftOut (cutoff : Moment) (selected : List AssemblyConstituent) (record : FundamentalEvidenceRecord) :
    Prop :=
  record.recordId ∉ selected.map (·.record.recordId) ∧ record.qualityState = .accepted ∧
    record.conflictState.settled ∧ record.recordedAt ≤ cutoff ∧ record.knownAt ≤ cutoff ∧
    ¬∃ item ∈ selected, disclosed record = disclosed item.record

/-- The record has the identity and the semantics of a constituent that it overlaps. -/
structure CompetesWith (authorities : Authorities) (request : AssemblyRequest) (item : AssemblyConstituent)
    (record : FundamentalEvidenceRecord) : Prop where
  candidate : record ∈ candidates authorities request item
  leftOut : LeftOut request.replayCutoff (distinctConstituents request.constituents) record
  meets : overlaps record item.record
  compatible : omittedScopeCompatible authorities item request.replayCutoff record

def Competing (authorities : Authorities) (request : AssemblyRequest) (record : FundamentalEvidenceRecord) :
    Prop :=
  ∃ item ∈ distinctConstituents request.constituents, CompetesWith authorities request item record

/-- The window is covered by records that compete. -/
def CompetingSeries (authorities : Authorities) (request : AssemblyRequest)
    (path : List FundamentalEvidenceRecord) : Prop :=
  Series request.accountingWindowStart.instant request.accountingWindowEnd.instant path ∧
    ∀ record ∈ path, Competing authorities request record

/-- What competes with an assembly belongs to a coarser series that covers the window. -/
def NoneLeftOut (authorities : Authorities) (request : AssemblyRequest) : Prop :=
  ∀ record, Competing authorities request record →
    (∃ path, CompetingSeries authorities request path ∧ record ∈ path) ∧
      ∀ path, CompetingSeries authorities request path →
        path.length < (distinctConstituents request.constituents).length

/-- The constituents that are left have one shape. -/
def OneShape (request : AssemblyRequest) : Prop :=
  ∀ a ∈ distinctConstituents request.constituents, ∀ b ∈ distinctConstituents request.constituents,
    a.shapeId = b.shapeId

theorem identity_ext {a b : EconomicClaimIdentity} (entity : a.entityId = b.entityId)
    (claim : a.economicClaimId = b.economicClaimId) (asset : a.assetId = b.assetId)
    (representation : a.representationId = b.representationId) (token : a.tokenId = b.tokenId)
    (chain : a.chain = b.chain) (contract : a.contractAddress = b.contractAddress) : a = b := by
  cases a
  cases b
  simp_all

/-- Constituents of an assembly differ in their shape only where a left out record is compared. -/
structure SameMeaning (authorities : Authorities) (first item : AssemblyConstituent) : Prop where
  identity : item.record.identity = first.record.identity
  currency : authorities.casefold item.currency = authorities.casefold first.currency
  rawUnit : item.rawUnit = first.rawUnit
  accountingMeaning : item.accountingMeaning = first.accountingMeaning
  supplyBasisId : item.supplyBasisId = first.supplyBasisId
  pathwayId : item.pathwayId = first.pathwayId

theorem validateScope_meaning {first : AssemblyConstituent} {rest : List AssemblyConstituent}
    (ok : validateScope authorities first rest = .ok ()) :
    ∀ item ∈ first :: rest, SameMeaning authorities first item := by
  intro item member
  cases List.mem_cons.mp member with
  | inl here => exact here ▸ ⟨rfl, rfl, rfl, rfl, rfl, rfl⟩
  | inr later =>
      have checked := forM_ok.mp (require_bind_ok.mp ok).2 item later
      simp only [checkScope, require_bind_ok, require_ok] at checked
      obtain ⟨entity, claim, ⟨asset, token, chain, contract⟩, representation, pathway, supply, currency,
        unit, meaning⟩ := checked
      exact ⟨identity_ext entity claim asset representation token chain contract, currency, unit, meaning,
        supply, pathway⟩

theorem SameMeaning.candidates_eq {first item : AssemblyConstituent} (same : SameMeaning authorities first item) :
    candidates authorities request item = candidates authorities request first := by
  rw [candidates, candidates, same.identity]

theorem SameMeaning.compatible_iff {first item : AssemblyConstituent} {cutoff : Moment}
    (same : SameMeaning authorities first item) (shapes : item.shapeId = first.shapeId) :
    omittedScopeCompatible authorities item cutoff record =
      omittedScopeCompatible authorities first cutoff record := by
  simp only [omittedScopeCompatible, same.identity, same.currency, same.rawUnit, same.accountingMeaning,
    same.supplyBasisId, same.pathwayId, shapes]

theorem mem_omitted {cutoff : Moment} {first : AssemblyConstituent} {universe_ : List FundamentalEvidenceRecord} :
    record ∈ omitted authorities cutoff first items universe_ ↔
      record ∈ universe_ ∧ LeftOut cutoff items record ∧ omittedScopeCompatible authorities first cutoff record := by
  rw [omitted, List.mem_filter, List.mem_filter, decide_eq_true_eq, and_assoc]
  rfl

theorem le_foldr_max {sizes : List Nat} {n : Nat} (member : n ∈ sizes) : n ≤ sizes.foldr max 0 := by
  induction sizes with
  | nil => exact absurd member List.not_mem_nil
  | cons m sizes ih =>
      rw [List.foldr_cons]
      cases List.mem_cons.mp member with
      | inl here => exact here ▸ le_max_left _ _
      | inr later => exact (ih later).trans (le_max_right _ _)

/-- Where the check passes, what competes is on a series that is coarser than the selected one. -/
theorem covered_of_meets {first : AssemblyConstituent} {rest : List AssemblyConstituent}
    (ok : validateAuthoritativeUniverse authorities request first rest = .ok ())
    (unique : UniqueIds authorities request)
    (inside : record ∈ omitted authorities request.replayCutoff first (first :: rest)
      (candidates authorities request first))
    {item : AssemblyConstituent} (selected : item ∈ first :: rest) (meets : overlaps record item.record) :
    let paths := coveragePaths request.accountingWindowEnd.instant request.accountingWindowStart.instant
      (omitted authorities request.replayCutoff first (first :: rest) (candidates authorities request first))
    (∃ path ∈ paths, record ∈ path) ∧ ∀ path ∈ paths, path.length < (first :: rest).length := by
  intro paths
  obtain ⟨-, ok⟩ := require_bind_ok.mp ok
  obtain ⟨-, ok⟩ := require_bind_ok.mp ok
  obtain ⟨-, ok⟩ := require_bind_ok.mp ok
  cases require_ok.mp ok with
  | inr apart =>
      have none := apart record inside item selected
      exact absurd meets (by simp [none])
  | inl covered =>
      obtain ⟨-, coarser, covered⟩ := covered
      constructor
      · obtain ⟨path, found, member⟩ := covered record inside
        obtain ⟨other, there, same⟩ := List.mem_map.mp member
        have other_in := (mem_omitted.mp ((mem_coveragePaths.mp found).2 other there).1).1
        have equal := List.inj_on_of_nodup_map (unique _ _) other_in (mem_omitted.mp inside).1 same
        exact ⟨path, found, equal ▸ there⟩
      · intro path found
        have below : path.length ≤ (paths.map List.length).foldr max 0 :=
          le_foldr_max (List.mem_map_of_mem found)
        exact below.trans_lt coarser

/-- What holds of the constituents that are left in an assembly that is made. -/
structure Accepted (authorities : Authorities) (request : AssemblyRequest) (first : AssemblyConstituent)
    (rest : List AssemblyConstituent) : Prop where
  left : distinctConstituents request.constituents = first :: rest
  meaning : ∀ item ∈ first :: rest, SameMeaning authorities first item
  candidates : validateAuthoritativeUniverse authorities request first rest = .ok ()
  tiles : Tiles request.accountingWindowEnd.instant request.accountingWindowStart.instant
    ((first :: rest).map AssemblyConstituent.window)
  lasts : request.accountingWindowStart.instant < request.accountingWindowEnd.instant
  distinct : ((first :: rest).map (·.record.recordId)).Nodup

theorem construct_accepted {made : AssembledFundamentalEvidenceRecord}
    (constructed : construct authorities request = .ok made) :
    ∃ first rest, Accepted authorities request first rest := by
  obtain ⟨-, contract, registry, -, -, -, -, -, assembled⟩ := construct_iff.mp constructed
  obtain ⟨first, rest, amount, weakest, left, -, scope, universe_, coverage, -, rfl, checked⟩ :=
    assembleSelected_ok assembled
  obtain ⟨-, checked⟩ := require_bind_ok.mp checked
  obtain ⟨lasts, checked⟩ := require_bind_ok.mp checked
  obtain ⟨distinct, -⟩ := require_bind_ok.mp checked
  exact ⟨first, rest, left, validateScope_meaning scope, universe_, validateCoverage_tiles coverage, lasts,
    distinct⟩

theorem windows_forward : ∀ period ∈ items.map AssemblyConstituent.window, period.1 ≤ period.2 := by
  intro period member
  obtain ⟨item, -, rfl⟩ := List.mem_map.mp member
  exact item.record.period

section

variable {first : AssemblyConstituent} {rest : List AssemblyConstituent}

/-- What competes is among the records that the check compares with the first constituent. -/
theorem Accepted.omitted (accepted : Accepted authorities request first rest) (alike : OneShape request)
    (competes : Competing authorities request record) :
    record ∈ omitted authorities request.replayCutoff first (first :: rest)
        (EvidenceAssembly.candidates authorities request first) ∧
      ∃ item ∈ first :: rest, overlaps record item.record := by
  obtain ⟨item, selected, candidate, leftOut, meets, compatible⟩ := competes
  rw [accepted.left] at selected leftOut
  have shapes : item.shapeId = first.shapeId :=
    alike item (accepted.left ▸ selected) first (accepted.left ▸ List.mem_cons_self)
  have meaning := accepted.meaning item selected
  rw [meaning.candidates_eq] at candidate
  rw [meaning.compatible_iff shapes] at compatible
  exact ⟨mem_omitted.mpr ⟨candidate, leftOut, compatible⟩, item, selected, meets⟩

/-- A record that lasts, is within the window and is compared with the first one competes. -/
theorem Accepted.competing (accepted : Accepted authorities request first rest) (alike : OneShape request)
    (inside : record ∈ EvidenceAssembly.omitted authorities request.replayCutoff first (first :: rest)
      (EvidenceAssembly.candidates authorities request first))
    (lasts : record.accountingPeriodStart < record.accountingPeriodEnd)
    (after : request.accountingWindowStart.instant ≤ record.accountingPeriodStart)
    (before : record.accountingPeriodEnd ≤ request.accountingWindowEnd.instant) :
    Competing authorities request record := by
  obtain ⟨candidate, leftOut, compatible⟩ := mem_omitted.mp inside
  obtain ⟨period, member, ongoing, begun⟩ := accepted.tiles.meets windows_forward lasts after before
  obtain ⟨item, selected, rfl⟩ := List.mem_map.mp member
  have meaning := accepted.meaning item selected
  have shapes : item.shapeId = first.shapeId :=
    alike item (accepted.left ▸ selected) first (accepted.left ▸ List.mem_cons_self)
  refine ⟨item, accepted.left ▸ selected, ?_, accepted.left ▸ leftOut, ?_, ?_⟩
  · rwa [meaning.candidates_eq]
  · rw [overlaps, Bool.and_eq_true]
    exact ⟨decide_eq_true ongoing, decide_eq_true begun⟩
  · rwa [meaning.compatible_iff shapes]

theorem noneLeftOut_of_oneShape (accepted : Accepted authorities request first rest)
    (unique : UniqueIds authorities request) (alike : OneShape request) : NoneLeftOut authorities request := by
  intro record competes
  obtain ⟨inside, item, selected, meets⟩ := accepted.omitted alike competes
  obtain ⟨⟨path, found, member⟩, coarser⟩ :=
    covered_of_meets accepted.candidates unique inside selected meets
  constructor
  · -- the records of the series that do not last are left out, except the one it is about
    let keep : FundamentalEvidenceRecord → Bool := fun other =>
      other.accountingPeriodStart < other.accountingPeriodEnd ∨ other = record
    obtain ⟨series, stops⟩ := mem_coveragePaths.mp found
    refine ⟨path.filter keep, ⟨⟨series.tiles.filter ?_, ?_⟩, ?_⟩, ?_⟩
    · intro other _ dropped
      have short := not_or.mp (of_decide_eq_false dropped)
      exact le_antisymm other.period (not_lt.mp short.1)
    · exact series.distinct.sublist (List.filter_sublist.map _)
    · intro other member
      obtain ⟨there, kept⟩ := List.mem_filter.mp member
      cases of_decide_eq_true kept with
      | inl lasts =>
          have within := series.within there
          exact accepted.competing alike (stops other there).1 lasts within.1 within.2
      | inr same => exact same ▸ competes
    · exact List.mem_filter.mpr ⟨member, decide_eq_true (Or.inr rfl)⟩
  · rintro path ⟨series, all⟩
    rw [accepted.left]
    refine coarser path (mem_coveragePaths.mpr ⟨series, fun other member => ?_⟩)
    obtain ⟨there, item, selected, meets⟩ := accepted.omitted alike (all other member)
    refine ⟨there, ne_of_lt ?_⟩
    -- a record that meets a constituent begins before the window ends
    have begun := of_decide_eq_true (Bool.and_eq_true _ _ ▸ meets : _ ∧ _).1
    have ends := ((accepted.tiles.le windows_forward).2 item.window (List.mem_map_of_mem selected)).2
    exact begun.trans_le ends

end

/-- A disclosure of the period of a constituent that claims something else. -/
def rival (item : AssemblyConstituent) (recordId : String) (named : blank recordId = false) :
    FundamentalEvidenceRecord :=
  { item.record with
    recordId := recordId
    extractedClaim := recordId
    texts := by
      have given := item.record.texts
      simp only [List.forall_mem_cons] at given ⊢
      exact ⟨named, given.2.1, given.2.2.1, given.2.2.2.1, given.2.2.2.2.1, given.2.2.2.2.2.1,
        given.2.2.2.2.2.2.1, given.2.2.2.2.2.2.2.1, named, given.2.2.2.2.2.2.2.2.2⟩ }

/-- The authorities that know of a rival of a constituent, and of nothing else that competes. -/
def rivalAuthorities (authorities : Authorities) (request : AssemblyRequest) (item : AssemblyConstituent)
    (recordId : String) (named : blank recordId = false) : Authorities :=
  { authorities with
    overlappingEvidence := fun _ _ _ _ _ =>
      (distinctConstituents request.constituents).map (·.record) ++ [rival item recordId named]
    strictKnownSemantics := fun id version knownBy =>
      if id = recordId then
        (authorities.strictKnownSemantics item.record.recordId version knownBy).map fun semantics =>
          { semantics with evidenceRecordId := recordId }
      else authorities.strictKnownSemantics id version knownBy }

theorem exists_fresh (ids : List String) : ∃ id, id ∉ ids ∧ blank id = false := by
  refine ⟨String.ofList ('r' :: ids.flatMap String.toList), fun member => ?_, ?_⟩
  · have shorter : ∀ id ∈ ids, id.toList.length ≤ (ids.flatMap String.toList).length := by
      intro id there
      exact (List.sublist_flatten_of_mem (List.mem_map_of_mem there)).length_le
    have own := shorter _ member
    rw [String.toList_ofList, List.length_cons] at own
    omega
  · rw [blank, List.isEmpty_eq_false_iff]
    refine Chars.strip_ne_nil_of_mem (c := 'r') ?_ (by decide)
    rw [String.scalars_ofList]
    exact List.mem_cons_self

section

variable {first item : AssemblyConstituent} {rest : List AssemblyConstituent}
  {made : AssembledFundamentalEvidenceRecord} {recordId : String} {named : blank recordId = false}

theorem disclosed_claim {a b : FundamentalEvidenceRecord} (same : disclosed a = disclosed b) :
    a.extractedClaim = b.extractedClaim := by
  have shown : ∀ record : FundamentalEvidenceRecord,
      (disclosed record).lookup "extracted_claim" = some (.str record.extractedClaim) := fun _ => rfl
  have fields := congrArg (List.lookup "extracted_claim") same
  rwa [shown, shown, Option.some.injEq, Json.str.injEq] at fields

/-- Neither a record nor a claim of the request has the text. -/
def Fresh (request : AssemblyRequest) (text : String) : Prop :=
  text ∉ request.constituents.map (·.record.recordId) ++
    request.constituents.map (·.record.extractedClaim)

theorem validateScope_congr {others : Authorities} (folds : others.casefold = authorities.casefold) :
    validateScope others first rest = validateScope authorities first rest := by
  unfold validateScope checkScope
  rw [folds]

/-- The tail of an assembly asks the authorities for the candidates only. -/
theorem assembleSelected_of_candidates {others : Authorities} {contract : MethodologyEvidenceInputContract}
    {registry : EvidenceShapeRegistry} (folds : others.casefold = authorities.casefold)
    (same : validateAuthoritativeUniverse others request first rest =
      validateAuthoritativeUniverse authorities request first rest) :
    assembleSelected others request contract registry (first :: rest) =
      assembleSelected authorities request contract registry (first :: rest) := by
  cases rest with
  | nil => rfl
  | cons second rest => simp only [assembleSelected, same, validateScope_congr folds]

theorem constituents_known (constructed : construct authorities request = .ok made)
    (selected : item ∈ distinctConstituents request.constituents) :
    item.record.qualityState = .accepted ∧ item.record.conflictState.settled ∧
      item.record.recordedAt ≤ request.replayCutoff ∧ item.record.knownAt ≤ request.replayCutoff := by
  obtain ⟨-, contract, registry, -, -, -, -, -, assembled⟩ := construct_iff.mp constructed
  match left : distinctConstituents request.constituents with
  | [] | [_] =>
      rw [left] at assembled
      cases assembled
  | one :: two :: others =>
      rw [left] at assembled selected
      simp only [assembleSelected, bind_ok, exists_unit] at assembled
      obtain ⟨shapes, resolved, checked, -⟩ := assembled
      obtain ⟨found, mapped, agreed⟩ := bind_ok.mp resolved
      have resolved_all := mapM_ok_length mapped
      have long : (one :: two :: others).length ≤ shapes.length := by
        obtain ⟨-, same⟩ := require_bind_ok.mp agreed
        cases same
        rw [resolved_all, List.length_map]
      rw [← List.map_fst_zip long] at selected
      obtain ⟨pair, inside, rfl⟩ := List.mem_map.mp selected
      have own := forM_ok.mp checked pair inside
      simp only [checkAuthority, require_bind_ok] at own
      exact ⟨own.1, own.2.1, own.2.2.1.2⟩

theorem checkSemantics_rival (fresh : item.record.recordId ≠ recordId) {other : AssemblyConstituent} :
    checkSemantics (rivalAuthorities authorities request other recordId named) request.replayCutoff item =
      checkSemantics authorities request.replayCutoff item := by
  simp only [checkSemantics, rivalAuthorities, if_neg fresh]

theorem compatible_iff {cutoff : Moment} {record : FundamentalEvidenceRecord} :
    omittedScopeCompatible authorities item cutoff record ↔
      ∃ semantics, authorities.strictKnownSemantics record.recordId record.semanticVersion cutoff =
          some semantics ∧ record.identity = item.record.identity ∧ semantics.exact record cutoff ∧
        semantics.shapeId = item.shapeId ∧
        authorities.casefold semantics.currency = authorities.casefold item.currency ∧
        semantics.rawUnit = item.rawUnit ∧ semantics.accountingMeaning = item.accountingMeaning ∧
        semantics.supplyBasisId = item.supplyBasisId ∧ semantics.pathwayId = item.pathwayId := by
  unfold omittedScopeCompatible
  split
  case h_1 none => simp [none]
  case h_2 semantics found => simp [found, and_assoc]

theorem compatible_rival {cutoff : Moment} (known : checkSemantics authorities cutoff item = .ok ()) :
    omittedScopeCompatible (rivalAuthorities authorities request item recordId named) item cutoff
      (rival item recordId named) := by
  unfold checkSemantics at known
  split at known
  case h_1 => cases known
  case h_2 semantics found =>
    simp only [require_bind_ok, require_ok] at known
    obtain ⟨⟨exact, shape, currency, unit, meaning, supply, pathway⟩, -⟩ := known
    have asked : (rivalAuthorities authorities request item recordId named).strictKnownSemantics recordId
        item.record.semanticVersion cutoff = some { semantics with evidenceRecordId := recordId } := by
      simp only [rivalAuthorities, if_true, found, Option.map_some]
    refine compatible_iff.mpr ⟨_, asked, rfl, ?_, shape.symm, by rw [currency], unit.symm, meaning.symm,
      supply.symm, pathway.symm⟩
    simp only [AuthoritativeEvidenceSemantics.exact, Bool.and_eq_true, decide_eq_true_eq] at exact ⊢
    exact ⟨⟨⟨⟨⟨⟨rfl, exact.1.1.1.1.1.2⟩, exact.1.1.1.1.2⟩, exact.1.1.1.2⟩, exact.1.1.2⟩, exact.1.2⟩, exact.2⟩

/-- The rival of a constituent of another shape than the first one's is not compared with it. -/
theorem omitted_rival (other : item.shapeId ≠ first.shapeId)
    (known : checkSemantics authorities request.replayCutoff item = .ok ()) :
    omitted (rivalAuthorities authorities request item recordId named) request.replayCutoff first
      (first :: rest) ((first :: rest).map (·.record) ++ [rival item recordId named]) = [] := by
  refine List.eq_nil_iff_forall_not_mem.mpr fun record member => ?_
  obtain ⟨inside, leftOut, compatible⟩ := mem_omitted.mp member
  cases List.mem_append.mp inside with
  | inl constituent =>
      obtain ⟨one, selected, rfl⟩ := List.mem_map.mp constituent
      exact leftOut.1 (List.mem_map_of_mem selected)
  | inr rivalling =>
      rw [List.mem_singleton.mp rivalling] at compatible
      have own : omittedScopeCompatible (rivalAuthorities authorities request item recordId named) item
          request.replayCutoff (rival item recordId named) := compatible_rival known
      obtain ⟨semantics, found, -, -, shape, -⟩ := compatible_iff.mp own
      obtain ⟨same, again, -, -, first_shape, -⟩ := compatible_iff.mp compatible
      cases found.symm.trans again
      exact other (shape.symm.trans first_shape)

/-- Nothing is found where none of the candidates is compared. -/
theorem validateAuthoritativeUniverse_of_none
    (apart : request.accountingWindowStart.instant ≠ request.accountingWindowEnd.instant)
    (inside : ∀ item ∈ first :: rest, item.record.recordId ∈ (candidates authorities request first).map (·.recordId))
    (none : omitted authorities request.replayCutoff first (first :: rest)
      (candidates authorities request first) = []) :
    validateAuthoritativeUniverse authorities request first rest = .ok () := by
  unfold candidates at inside none
  have nothing : coveragePaths request.accountingWindowEnd.instant request.accountingWindowStart.instant
      [] = [] := by
    rw [coveragePaths_step apart]
    rfl
  simp only [validateAuthoritativeUniverse, require_bind_ok, require_ok, none, nothing]
  exact ⟨inside, fun _ absent => absurd absent List.not_mem_nil, Or.inl trivial,
    Or.inr fun _ absent => absurd absent List.not_mem_nil⟩

theorem candidates_rival (other : AssemblyConstituent) (accepted : Accepted authorities request first rest) :
    candidates (rivalAuthorities authorities request item recordId named) request other =
      (first :: rest).map (·.record) ++ [rival item recordId named] := by
  rw [← accepted.left]
  rfl

/-- The call is accepted also where a rival is known. -/
theorem construct_rival (constructed : construct authorities request = .ok made)
    (accepted : Accepted authorities request first rest)
    (selected : item ∈ distinctConstituents request.constituents) (other : item.shapeId ≠ first.shapeId)
    (fresh : Fresh request recordId) :
    construct (rivalAuthorities authorities request item recordId named) request = .ok made := by
  obtain ⟨enough, contract, registry, fetched, found, valid, known, agree, assembled⟩ :=
    construct_iff.mp constructed
  refine construct_iff.mpr ⟨enough, contract, registry, fetched, found, valid, fun one member => ?_, agree, ?_⟩
  · rw [checkSemantics_rival]
    · exact known one member
    · exact fun same => fresh (List.mem_append_left _ (List.mem_map.mpr ⟨one, member, same⟩))
  · rw [accepted.left] at assembled ⊢
    have folds : (rivalAuthorities authorities request item recordId named).casefold = authorities.casefold := rfl
    rw [assembleSelected_of_candidates folds, assembled]
    rw [accepted.candidates]
    refine validateAuthoritativeUniverse_of_none accepted.lasts.ne (fun one member => ?_) ?_
    · rw [candidates_rival first accepted, List.map_append, List.map_map]
      exact List.mem_append_left _ (List.mem_map_of_mem member)
    · rw [candidates_rival first accepted]
      exact omitted_rival other (known item (mem_distinctConstituents selected))

/-- The rival competes with its constituent, and there is no series that it belongs to. -/
theorem rival_missed (constructed : construct authorities request = .ok made)
    (accepted : Accepted authorities request first rest)
    (selected : item ∈ distinctConstituents request.constituents)
    (lasts : item.record.accountingPeriodStart < item.record.accountingPeriodEnd)
    (part : item.window ≠ (request.accountingWindowStart.instant, request.accountingWindowEnd.instant))
    (fresh : Fresh request recordId) :
    ¬NoneLeftOut (rivalAuthorities authorities request item recordId named) request := by
  have known := (construct_iff.mp constructed)
  obtain ⟨-, -, -, -, -, -, known, -, -⟩ := known
  have there := mem_distinctConstituents selected
  have apart : ∀ one ∈ first :: rest, one.record.recordId ≠ recordId := by
    intro one member same
    have inside := mem_distinctConstituents (accepted.left ▸ member)
    exact fresh (List.mem_append_left _ (List.mem_map.mpr ⟨one, inside, same⟩))
  have competes : Competing (rivalAuthorities authorities request item recordId named) request
      (rival item recordId named) := by
    refine ⟨item, selected, ?_, ?_, ?_, compatible_rival (known item there)⟩
    · rw [candidates_rival item accepted]
      exact List.mem_append_right _ (List.mem_singleton_self _)
    · obtain ⟨quality, settled, recorded, knowable⟩ := constituents_known constructed selected
      refine ⟨fun member => ?_, quality, settled, recorded, knowable, ?_⟩
      · obtain ⟨one, inside, same⟩ := List.mem_map.mp member
        exact apart one (accepted.left ▸ inside) same
      · rintro ⟨one, inside, same⟩
        have claims : one.record.extractedClaim = recordId := (disclosed_claim same).symm
        exact fresh (List.mem_append_right _
          (List.mem_map.mpr ⟨one, mem_distinctConstituents inside, claims⟩))
    · rw [overlaps, Bool.and_eq_true]
      exact ⟨decide_eq_true lasts, decide_eq_true lasts⟩
  intro covered
  obtain ⟨⟨path, ⟨series, all⟩, member⟩, -⟩ := covered _ competes
  -- nothing else competes, so the series would consist of the rival
  have only : ∀ record ∈ path, record = rival item recordId named := by
    intro record inside
    obtain ⟨one, -, competing⟩ := all record inside
    have candidate := competing.candidate
    rw [candidates_rival one accepted] at candidate
    cases List.mem_append.mp candidate with
    | inl constituent =>
        obtain ⟨two, own, rfl⟩ := List.mem_map.mp constituent
        have left := competing.leftOut.1
        rw [accepted.left] at left
        exact absurd (List.mem_map_of_mem own) left
    | inr alone => exact List.mem_singleton.mp alone
  have single : path = [rival item recordId named] := by
    cases path with
    | nil => exact absurd member List.not_mem_nil
    | cons one path =>
        cases path with
        | nil => rw [only one List.mem_cons_self]
        | cons two path =>
            have same := only two (List.mem_cons_of_mem _ List.mem_cons_self)
            have again := (List.nodup_cons.mp series.distinct).1
            rw [only one List.mem_cons_self, same] at again
            exact absurd List.mem_cons_self again
  have tiles := series.tiles
  rw [single] at tiles
  exact part (Prod.ext tiles.1 tiles.2)

theorem unique_rival (accepted : Accepted authorities request first rest) (fresh : Fresh request recordId) :
    UniqueIds (rivalAuthorities authorities request item recordId named) request := by
  intro entityId economicClaimId
  show (((distinctConstituents request.constituents).map (·.record) ++
    [rival item recordId named]).map (·.recordId)).Nodup
  rw [accepted.left, List.map_append, List.map_map]
  refine List.nodup_append.mpr ⟨accepted.distinct, List.nodup_singleton _, fun id inside last member same => ?_⟩
  obtain ⟨one, selected, rfl⟩ := List.mem_map.mp inside
  have there := mem_distinctConstituents (accepted.left ▸ selected)
  refine fresh (List.mem_append_left _ (List.mem_map.mpr ⟨one, there, same.trans ?_⟩))
  exact List.mem_singleton.mp member

end

/-- The authorities answer with the same candidates in another order. -/
def Shuffled (authorities shuffled : Authorities) : Prop :=
  ∃ answer, shuffled = { authorities with overlappingEvidence := answer } ∧
    ∀ entityId economicClaimId start finish knownBy,
      (answer entityId economicClaimId start finish knownBy).Perm
        (authorities.overlappingEvidence entityId economicClaimId start finish knownBy)

theorem mem_coveragePaths_congr {start finish : Moment} {one two : List FundamentalEvidenceRecord}
    (same : ∀ record, record ∈ one ↔ record ∈ two) :
    path ∈ coveragePaths finish start one ↔ path ∈ coveragePaths finish start two := by
  simp only [mem_coveragePaths, same]

theorem finest_congr {one two : List (List FundamentalEvidenceRecord)} (same : ∀ path, path ∈ one ↔ path ∈ two) :
    (one.map List.length).foldr max 0 = (two.map List.length).foldr max 0 := by
  have below : ∀ {a b : List (List FundamentalEvidenceRecord)}, (∀ path ∈ a, path ∈ b) →
      (a.map List.length).foldr max 0 ≤ (b.map List.length).foldr max 0 := by
    intro a b inside
    induction a with
    | nil => exact Nat.zero_le _
    | cons path a ih =>
        rw [List.map_cons, List.foldr_cons]
        refine max_le ?_ (ih fun other member => inside other (List.mem_cons_of_mem path member))
        exact le_foldr_max (List.mem_map_of_mem (inside path List.mem_cons_self))
  exact le_antisymm (below fun path => (same path).mp) (below fun path => (same path).mpr)

theorem candidateRecordIds_congr {one two : List FundamentalEvidenceRecord} (perm : one.Perm two) :
    candidateRecordIds one = candidateRecordIds two :=
  Sorting.sorted_congr (perm.map _).dedup

theorem validateAuthoritativeUniverse_shuffled {first : AssemblyConstituent} {rest : List AssemblyConstituent}
    {answer : String → String → Moment → Moment → Moment → List FundamentalEvidenceRecord}
    (perm : ∀ entityId economicClaimId start finish knownBy,
      (answer entityId economicClaimId start finish knownBy).Perm
        (authorities.overlappingEvidence entityId economicClaimId start finish knownBy)) :
    validateAuthoritativeUniverse { authorities with overlappingEvidence := answer } request first rest =
      validateAuthoritativeUniverse authorities request first rest := by
  have same := perm first.record.identity.entityId first.record.identity.economicClaimId
    request.accountingWindowStart.instant request.accountingWindowEnd.instant request.replayCutoff
  have members : ∀ record, record ∈ omitted { authorities with overlappingEvidence := answer }
        request.replayCutoff first (first :: rest) (answer first.record.identity.entityId
          first.record.identity.economicClaimId request.accountingWindowStart.instant
          request.accountingWindowEnd.instant request.replayCutoff) ↔
      record ∈ omitted authorities request.replayCutoff first (first :: rest)
        (authorities.overlappingEvidence first.record.identity.entityId
          first.record.identity.economicClaimId request.accountingWindowStart.instant
          request.accountingWindowEnd.instant request.replayCutoff) := by
    intro record
    rw [mem_omitted, mem_omitted, same.mem_iff]
    rfl
  have paths := fun path => @mem_coveragePaths_congr path request.accountingWindowStart.instant
    request.accountingWindowEnd.instant _ _ members
  have empty := List.eq_nil_iff_forall_not_mem.trans
    ((forall_congr' fun path => not_congr (paths path)).trans List.eq_nil_iff_forall_not_mem.symm)
  simp only [validateAuthoritativeUniverse, (same.map _).mem_iff, candidateRecordIds_congr same, members, paths,
    finest_congr paths, empty, ne_eq]

theorem assemble_shuffled {shuffled : Authorities} (same : Shuffled authorities shuffled) (stored : Store) :
    assemble shuffled stored request = assemble authorities stored request := by
  obtain ⟨answer, rfl, perm⟩ := same
  have tail : ∀ contract registry selected,
      assembleSelected { authorities with overlappingEvidence := answer } request contract registry selected =
        assembleSelected authorities request contract registry selected := by
    intro contract registry selected
    cases selected with
    | nil => rfl
    | cons first rest => exact assembleSelected_of_candidates rfl (validateAuthoritativeUniverse_shuffled perm)
  unfold assemble construct
  simp only [tail]
  rfl

/-- Where the constituents have one shape, no competing disclosure is left out. A constituent of
another shape than the first one's can be rivalled by a disclosure that the check does not see. The
order of the candidates makes no difference, and the search finds each series once. -/
theorem disclosures_considered (stored : Store) :
    (∀ authorities request record after,
      assemble authorities stored request = .ok (record, after) → UniqueIds authorities request →
        OneShape request → NoneLeftOut authorities request) ∧
    (∀ authorities request record after first item,
      assemble authorities stored request = .ok (record, after) →
        (distinctConstituents request.constituents).head? = some first →
        item ∈ distinctConstituents request.constituents → item.shapeId ≠ first.shapeId →
        item.record.accountingPeriodStart < item.record.accountingPeriodEnd →
        item.window ≠ (request.accountingWindowStart.instant, request.accountingWindowEnd.instant) →
        ∃ others, assemble others stored request = .ok (record, after) ∧ UniqueIds others request ∧
          ¬NoneLeftOut others request) ∧
    (∀ authorities shuffled request, Shuffled authorities shuffled →
      assemble shuffled stored request = assemble authorities stored request) ∧
    ∀ (start finish : Moment) (available : List FundamentalEvidenceRecord), available.Nodup →
      (coveragePaths finish start available).Nodup ∧ ∀ path, path ∈ coveragePaths finish start available ↔
        Series start finish path ∧
          ∀ record ∈ path, record ∈ available ∧ record.accountingPeriodStart ≠ finish := by
  refine ⟨?_, ?_, fun _ _ _ same => assemble_shuffled same stored, fun start finish available distinct =>
    ⟨nodup_coveragePaths distinct, fun path => mem_coveragePaths⟩⟩
  · intro authorities request record after assembled unique alike
    obtain ⟨first, rest, accepted⟩ := construct_accepted (assemble_ok.mp assembled).1
    exact noneLeftOut_of_oneShape accepted unique alike
  · intro authorities request record after head item assembled leads selected other lasts part
    obtain ⟨constructed, authorized, inserted⟩ := assemble_ok.mp assembled
    obtain ⟨first, rest, accepted⟩ := construct_accepted constructed
    obtain ⟨text, fresh, named⟩ := exists_fresh (request.constituents.map (·.record.recordId) ++
      request.constituents.map (·.record.extractedClaim))
    have same : first = head := by
      rw [accepted.left] at leads
      exact Option.some.inj leads
    refine ⟨rivalAuthorities authorities request item text named, assemble_ok.mpr ⟨?_, authorized, inserted⟩,
      unique_rival accepted fresh, rival_missed constructed accepted selected lasts part fresh⟩
    exact construct_rival constructed accepted selected (same ▸ other) fresh

/-- The second constituent, under another shape. -/
def stockConstituent : AssemblyConstituent :=
  { sampleConstituent true "2" two_isSome with
    shapeId := "stock"
    texts := by decide }

def flowConstituent : AssemblyConstituent := sampleConstituent false "1" one_isSome

def stockShape : EvidenceShape :=
  ⟨"stock", "v", "official_disclosure", .periodSpecific, "c", .exactSum, true, by decide⟩

def mixedContract : MethodologyEvidenceInputContract :=
  { sampleContract with acceptedShapeIds := ["flow", "stock"] }

def mixedRegistry : EvidenceShapeRegistry :=
  { flowRegistry false with shapes := [flowShape false, stockShape] }

def mixedAuthorities : Authorities where
  overlappingEvidence _ _ _ _ _ := [flowConstituent.record, stockConstituent.record]
  strictKnownContract _ _ _ _ := some mixedContract
  strictKnownRegistry _ _ := some mixedRegistry
  strictKnownSemantics recordId recordVersion _ :=
    some { sampleSemantics recordId recordVersion with shapeId := if recordId = "a" then "flow" else "stock" }
  casefold text := String.ofList (Chars.lower text.scalars)

def mixedRequest : AssemblyRequest := daysRequest false [flowConstituent, stockConstituent]

theorem mixed_distinct : distinctConstituents [flowConstituent, stockConstituent] =
    [flowConstituent, stockConstituent] := by
  have apart : stockConstituent.window ≠ flowConstituent.window := by
    show (noon, dusk) ≠ (dawn, noon)
    decide
  have ordered : sortConstituents [flowConstituent, stockConstituent] = [flowConstituent, stockConstituent] := by
    refine List.mergeSort_of_pairwise (List.pairwise_pair.mpr ?_)
    show decide ((toLex (dawn, "a") : Moment ×ₗ String) ≤ toLex (noon, "b")) = true
    decide
  rw [distinctConstituents, ordered, firsts, firsts, firsts, List.filter_nil,
    List.filter_cons_of_pos (by simpa using apart), List.filter_nil]

theorem mixed_sum : sumAmounts [flowConstituent, stockConstituent] = .ok ⟨false, 3, 0⟩ := by
  have read : [flowConstituent, stockConstituent].mapM AssemblyConstituent.amount =
      some [⟨false, 1, 0⟩, ⟨false, 2, 0⟩] := by
    have own : flowConstituent.amount = some ⟨false, 1, 0⟩ := one_parsed
    have other : stockConstituent.amount = some ⟨false, 2, 0⟩ := two_parsed
    rw [List.mapM_cons, List.mapM_cons, own, other]
    rfl
  simp only [sumAmounts, read, small_sum]

theorem mixed_weakest : weakestConfidence flowConstituent [stockConstituent] = .ok ⟨false, 1, 0⟩ := by
  have read : [flowConstituent, stockConstituent].mapM
      (fun item => Decimal.parse item.record.evidenceConfidence.scalars) =
        some [⟨false, 1, 0⟩, ⟨false, 1, 0⟩] := by
    show [flowConstituent, stockConstituent].mapM (fun _ => Decimal.parse "1".scalars) = _
    rw [one_parsed]
    rfl
  simp only [weakestConfidence, read]
  exact congrArg _ (if_neg (lt_irrefl _))

def mixedRecord : AssembledFundamentalEvidenceRecord :=
  assembledRecord mixedRequest mixedRegistry mixedContract flowConstituent [stockConstituent] ⟨false, 3, 0⟩
    ⟨false, 1, 0⟩

theorem mixed_constructs : construct mixedAuthorities mixedRequest = .ok mixedRecord := by
  have agree : Agree mixedRequest.constituents := by
    refine agree_of_distinct ?_
    show [(dawn, noon), (noon, dusk)].Nodup
    decide
  have known : ∀ item ∈ mixedRequest.constituents, checkSemantics mixedAuthorities dusk item = .ok () := by
    intro item member
    rw [mixedRequest, daysRequest, List.mem_cons, List.mem_singleton] at member
    cases member with
    | inl here => rw [here]; rfl
    | inr here => rw [here]; rfl
  have universe_ : validateAuthoritativeUniverse mixedAuthorities mixedRequest flowConstituent [stockConstituent] =
      .ok () := by
    have apart : dawn ≠ dusk := by decide
    exact validateAuthoritativeUniverse_of_all apart fun id => Iff.rfl
  have shapes : requireExactSumCompatible mixedRegistry ["flow", "stock"] =
      .ok [flowShape false, stockShape] := rfl
  have selected : assembleSelected mixedAuthorities mixedRequest mixedContract mixedRegistry
      [flowConstituent, stockConstituent] = .ok mixedRecord := by
    simp only [assembleSelected, bind_ok, exists_unit, require_ok, pure_eq_ok, Except.ok.injEq]
    refine ⟨_, shapes, rfl, rfl, universe_, rfl, le_refl dusk, le_refl dusk,
      max_le (le_refl dusk) (le_refl dusk), _, mixed_sum, _, mixed_weakest, ?_, rfl⟩
    simp only [checkRecord, require_bind_ok, require_ok]
    refine ⟨?_, ?_, ?_, Or.inr rfl, Or.inl rfl⟩
    · show blank "1" = false
      decide
    · show dawn < dusk
      decide
    · show ["a", "b"].Nodup
      decide
  refine construct_iff.mpr ⟨le_refl 2, mixedContract, mixedRegistry, rfl, rfl, rfl, known, agree, ?_⟩
  have left : distinctConstituents mixedRequest.constituents = [flowConstituent, stockConstituent] :=
    mixed_distinct
  rw [left]
  exact selected

theorem rival_named : blank "r" = false := by decide

/-- A second disclosure of the noon to dusk period, of the shape of the constituent, is not seen. -/
theorem disclosures_considered_fails : ∃ after,
    assemble (rivalAuthorities mixedAuthorities mixedRequest stockConstituent "r" rival_named) [] mixedRequest =
      .ok (mixedRecord, after) ∧
    UniqueIds (rivalAuthorities mixedAuthorities mixedRequest stockConstituent "r" rival_named) mixedRequest ∧
    ¬NoneLeftOut (rivalAuthorities mixedAuthorities mixedRequest stockConstituent "r" rival_named)
      mixedRequest := by
  obtain ⟨first, rest, accepted⟩ := construct_accepted mixed_constructs
  have left : distinctConstituents mixedRequest.constituents = [flowConstituent, stockConstituent] :=
    mixed_distinct
  have selected : stockConstituent ∈ distinctConstituents mixedRequest.constituents := by
    rw [left]
    exact List.mem_cons_of_mem _ (List.mem_singleton_self _)
  have leads : first = flowConstituent := by
    have same := accepted.left.symm.trans left
    exact (List.cons.inj same).1
  have other : stockConstituent.shapeId ≠ first.shapeId := by
    rw [leads]
    show "stock" ≠ "flow"
    decide
  have fresh : Fresh mixedRequest "r" := by
    show "r" ∉ ["a", "b", "c", "c"]
    decide
  have lasts : noon < dusk := by decide
  have part : (noon, dusk) ≠ (dawn, dusk) := by decide
  have constructed : construct (rivalAuthorities mixedAuthorities mixedRequest stockConstituent "r" rival_named)
      mixedRequest = .ok mixedRecord := construct_rival mixed_constructs accepted selected other fresh
  exact ⟨_, assemble_ok.mpr ⟨constructed, rfl, rfl⟩, unique_rival accepted fresh,
    rival_missed mixed_constructs accepted selected lasts part fresh⟩

/-- Two constituents of one shape, and a candidate for each of them only. -/
theorem disclosures_considered_sample : NoneLeftOut
    (sampleAuthorities (sampleRecords "1" "2" one_isSome two_isSome)) smallRequest := by
  obtain ⟨record, after, assembled, -⟩ := sample_assembles one_parsed two_parsed small_sum
  refine (disclosures_considered []).1 _ _ _ _ assembled sample_unique ?_
  have left : distinctConstituents smallRequest.constituents = _ := sample_distinct
  unfold OneShape
  rw [left]
  intro a a_in b b_in
  simp only [List.mem_cons, List.not_mem_nil, or_false] at a_in b_in
  rcases a_in with rfl | rfl <;> rcases b_in with rfl | rfl <;> rfl

end Hunter.EvidenceAssembly
