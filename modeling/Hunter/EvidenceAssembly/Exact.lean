import Hunter.Data.Firsts
import Hunter.Data.Lineage
import Hunter.Data.Tiling
import Hunter.EvidenceAssembly.Assembly

/-!
An assembled amount and the disclosures it is made of. The periods of the constituents tile the
window in every assembly that is made. The amount is their exact sum, and does not depend on the
order or the repetition of the constituents, as long as each constituent is a record that the
authority returned and no partial sum has more digits than the arithmetic keeps.
-/

namespace Hunter.EvidenceAssembly

open Calendar Fallible Firsts Tiling
open MarketValidation (blank sha256)
open ValueCapture (FundamentalEvidenceRecord identityFields)

variable {authorities : Authorities} {request : AssemblyRequest} {items kept selected : List AssemblyConstituent}

/-- Constituents of one window disclose the same. -/
def Agree (items : List AssemblyConstituent) : Prop :=
  ∀ a ∈ items, ∀ b ∈ items, a.window = b.window → a.relevant = b.relevant

/-- The constituents in the order of their periods, one for each window. -/
def distinctConstituents (constituents : List AssemblyConstituent) : List AssemblyConstituent :=
  firsts AssemblyConstituent.window (sortConstituents constituents)

theorem keep_new {item : AssemblyConstituent}
    (apart : item.window ∉ kept.map AssemblyConstituent.window) : keep kept item = .ok (kept ++ [item]) := by
  have none : kept.find? (fun prior => decide (prior.window = item.window)) = none := by
    refine List.find?_eq_none.mpr fun prior inside same => apart ?_
    exact List.mem_map.mpr ⟨prior, inside, of_decide_eq_true same⟩
  unfold keep
  rw [none]

theorem keep_old {item prior : AssemblyConstituent} {result : List AssemblyConstituent}
    (distinct : (kept.map AssemblyConstituent.window).Nodup) (inside : prior ∈ kept)
    (same : item.window = prior.window) :
    keep kept item = .ok result ↔ item.relevant = prior.relevant ∧ kept = result := by
  have found := Lineage.find?_key distinct inside
  unfold keep
  rw [same, found]
  simp only [require_bind_ok, pure_eq_ok, Except.ok.injEq]

theorem agree_of_distinct (distinct : (items.map AssemblyConstituent.window).Nodup) : Agree items := by
  intro a a_in b b_in same
  rw [List.inj_on_of_nodup_map distinct a_in b_in same]

/-- A constituent of a window that is there already has to disclose the same. -/
theorem agree_insert {item prior : AssemblyConstituent} (inside : prior ∈ kept)
    (same : item.window = prior.window) :
    Agree (kept ++ item :: items) ↔ item.relevant = prior.relevant ∧ Agree (kept ++ items) := by
  constructor
  · intro agree
    refine ⟨agree item (by simp) prior (by simp [inside]) same, fun a a_in b b_in => agree a ?_ b ?_⟩
    · exact List.mem_append.mpr ((List.mem_append.mp a_in).imp id (List.mem_cons_of_mem item))
    · exact List.mem_append.mpr ((List.mem_append.mp b_in).imp id (List.mem_cons_of_mem item))
  · rintro ⟨equal, agree⟩
    -- the constituent stands for the one that is there
    have stands : ∀ a ∈ kept ++ item :: items,
        ∃ b ∈ kept ++ items, a.window = b.window ∧ a.relevant = b.relevant := by
      intro a member
      cases List.mem_append.mp member with
      | inl old => exact ⟨a, List.mem_append_left _ old, rfl, rfl⟩
      | inr rest =>
          cases List.mem_cons.mp rest with
          | inl here => exact here ▸ ⟨prior, List.mem_append_left _ inside, same, equal⟩
          | inr later => exact ⟨a, List.mem_append_right _ later, rfl, rfl⟩
    intro a a_in b b_in windows
    obtain ⟨c, c_in, c_window, c_relevant⟩ := stands a a_in
    obtain ⟨d, d_in, d_window, d_relevant⟩ := stands b b_in
    rw [c_relevant, d_relevant]
    exact agree c c_in d d_in (c_window.symm.trans (windows.trans d_window))

theorem firsts_there {item : AssemblyConstituent} (there : item.window ∈ kept.map AssemblyConstituent.window) :
    (firsts AssemblyConstituent.window (item :: items)).filter
        (fun other => other.window ∉ kept.map AssemblyConstituent.window) =
      (firsts AssemblyConstituent.window items).filter
        (fun other => other.window ∉ kept.map AssemblyConstituent.window) := by
  rw [firsts, List.filter_cons_of_neg (by simpa using there), List.filter_filter]
  refine List.filter_congr fun other _ => ?_
  by_cases equal : other.window = item.window
  · simp [equal, there]
  · simp [equal]

theorem firsts_fresh {item : AssemblyConstituent}
    (apart : item.window ∉ kept.map AssemblyConstituent.window) :
    (firsts AssemblyConstituent.window (item :: items)).filter
        (fun other => other.window ∉ kept.map AssemblyConstituent.window) =
      item :: (firsts AssemblyConstituent.window items).filter
        (fun other => other.window ∉ (kept ++ [item]).map AssemblyConstituent.window) := by
  rw [firsts, List.filter_cons_of_pos (by simpa using apart), List.filter_filter]
  refine congrArg _ (List.filter_congr fun other _ => ?_)
  simp [not_or]

/-- The constituents of windows that are not there yet are added. -/
theorem foldlM_keep {result : List AssemblyConstituent} (distinct : (kept.map AssemblyConstituent.window).Nodup) :
    items.foldlM keep kept = .ok result ↔ Agree (kept ++ items) ∧
      kept ++ (firsts AssemblyConstituent.window items).filter
        (fun item => item.window ∉ kept.map AssemblyConstituent.window) = result := by
  induction items generalizing kept with
  | nil =>
      rw [List.foldlM_nil, pure_eq_ok, Except.ok.injEq, List.append_nil]
      simp only [firsts, List.filter_nil, List.append_nil, agree_of_distinct distinct, true_and]
  | cons item items ih =>
      rw [List.foldlM_cons]
      by_cases there : item.window ∈ kept.map AssemblyConstituent.window
      · obtain ⟨prior, inside, same⟩ := List.mem_map.mp there
        have old : ∀ next, keep kept item = .ok next ↔ item.relevant = prior.relevant ∧ kept = next :=
          fun next => keep_old distinct inside same.symm
        rw [firsts_there there, agree_insert inside same.symm, bind_ok]
        simp only [old, and_assoc, exists_and_left, exists_eq_left', ih distinct]
      · have more : ((kept ++ [item]).map AssemblyConstituent.window).Nodup := by
          rw [List.map_append]
          exact List.nodup_append.mpr ⟨distinct, List.nodup_singleton _, fun a a_in b b_in same =>
            there (by rw [← List.mem_singleton.mp b_in]; exact same ▸ a_in)⟩
        rw [keep_new there, ok_bind, ih more, firsts_fresh there]
        simp only [List.append_assoc, List.singleton_append]

theorem deduplicateIdentical_ok {result : List AssemblyConstituent} :
    deduplicateIdentical items = .ok result ↔ Agree items ∧ firsts AssemblyConstituent.window items = result := by
  have empty : (([] : List AssemblyConstituent).map AssemblyConstituent.window).Nodup := List.nodup_nil
  rw [deduplicateIdentical, foldlM_keep empty]
  simp only [List.nil_append, List.map_nil, List.not_mem_nil, not_false_eq_true, decide_true,
    List.filter_true]

theorem mem_sortConstituents {item : AssemblyConstituent} :
    item ∈ sortConstituents items ↔ item ∈ items := by
  have perm : (sortConstituents items).Perm items := List.mergeSort_perm _ _
  exact perm.mem_iff

theorem sortConstituents_sorted : (sortConstituents items).Pairwise fun a b => a.place ≤ b.place := by
  have sorted : (sortConstituents items).Pairwise fun a b => decide (a.place ≤ b.place) = true := by
    apply List.pairwise_mergeSort
    · intro a b c below above
      exact decide_eq_true ((of_decide_eq_true below).trans (of_decide_eq_true above))
    · intro a b
      simp only [Bool.or_eq_true, decide_eq_true_eq]
      exact le_total _ _
  exact sorted.imp of_decide_eq_true

theorem mem_distinctConstituents {item : AssemblyConstituent} (member : item ∈ distinctConstituents items) :
    item ∈ items :=
  mem_sortConstituents.mp ((firsts_sublist _).subset member)

theorem agree_congr {others : List AssemblyConstituent} (same : ∀ item, item ∈ others ↔ item ∈ items)
    (agree : Agree items) : Agree others := fun a a_in b b_in =>
  agree a ((same a).mp a_in) b ((same b).mp b_in)

/-- What the constituents of an assembly have in common. -/
structure SameScope (authorities : Authorities) (first item : AssemblyConstituent) : Prop where
  entityId : item.record.identity.entityId = first.record.identity.entityId
  economicClaimId : item.record.identity.economicClaimId = first.record.identity.economicClaimId
  representationId : item.record.identity.representationId = first.record.identity.representationId
  currency : authorities.casefold item.currency = authorities.casefold first.currency
  rawUnit : item.rawUnit = first.rawUnit

theorem checkScope_ok {first item : AssemblyConstituent} (ok : checkScope authorities first item = .ok ()) :
    SameScope authorities first item := by
  simp only [checkScope, require_bind_ok, require_ok] at ok
  obtain ⟨entity, claim, -, representation, -, -, currency, unit, -⟩ := ok
  exact ⟨entity, claim, representation, currency, unit⟩

theorem validateScope_ok {first : AssemblyConstituent} {rest : List AssemblyConstituent}
    (ok : validateScope authorities first rest = .ok ()) :
    ∀ item ∈ first :: rest, SameScope authorities first item := by
  intro item member
  cases List.mem_cons.mp member with
  | inl here => exact here ▸ ⟨rfl, rfl, rfl, rfl, rfl⟩
  | inr later =>
      have checked := (require_bind_ok.mp ok).2
      exact checkScope_ok (forM_ok.mp checked item later)

theorem identityFields_inj {a b : ValueCapture.EconomicClaimIdentity}
    (same : identityFields a = identityFields b) : a = b := by
  cases a
  cases b
  simpa [identityFields] using same

theorem identity_of_disclosed {a b : FundamentalEvidenceRecord} (same : disclosed a = disclosed b) :
    a.identity = b.identity := by
  have shown : ∀ record : FundamentalEvidenceRecord,
      (disclosed record).lookup "identity" = some (identityFields record.identity) := fun _ => rfl
  have fields := congrArg (List.lookup "identity") same
  rw [shown, shown, Option.some.injEq] at fields
  exact identityFields_inj fields

theorem AccountingMeaning.text_inj {a b : AccountingMeaning} (same : a.text = b.text) : a = b := by
  cases a <;> cases b <;> first | rfl | exact absurd same (by decide)

theorem sameScope_of_relevant {a b : AssemblyConstituent} (same : a.relevant = b.relevant) :
    SameScope authorities b a := by
  obtain ⟨disclosures, texts⟩ := Prod.mk.inj same
  have identity := identity_of_disclosed disclosures
  simp only [List.cons.injEq] at texts
  obtain ⟨-, currency, unit, -⟩ := texts
  exact ⟨by rw [identity], by rw [identity], by rw [identity], by rw [currency], unit⟩

theorem eq_of_relevant {a b : AssemblyConstituent} (records : a.record = b.record)
    (same : a.relevant = b.relevant) : a = b := by
  have texts := (Prod.mk.inj same).2
  simp only [List.cons.injEq] at texts
  obtain ⟨shape, currency, unit, meaning, supply, pathway, first, second, third, -⟩ := texts
  have meanings := AccountingMeaning.text_inj meaning
  cases a
  cases b
  simp only [AssemblyConstituent.mk.injEq]
  exact ⟨records, shape, currency, unit, meanings, supply, pathway, first, second, third⟩

/-- All constituents are in the scope of the first one that is left. -/
theorem scope_of_distinct {first : AssemblyConstituent} {rest : List AssemblyConstituent}
    (agree : Agree items) (left : distinctConstituents items = first :: rest)
    (ok : validateScope authorities first rest = .ok ()) : ∀ item ∈ items, SameScope authorities first item := by
  intro item member
  obtain ⟨kept, inside, windows⟩ : ∃ kept ∈ distinctConstituents items, kept.window = item.window :=
    exists_first (mem_sortConstituents.mpr member)
  have own : SameScope authorities first kept := validateScope_ok ok kept (left ▸ inside)
  have there : kept ∈ items := mem_distinctConstituents inside
  have same : SameScope authorities kept item := sameScope_of_relevant (agree item member kept there windows.symm)
  exact ⟨same.entityId.trans own.entityId, same.economicClaimId.trans own.economicClaimId,
    same.representationId.trans own.representationId, same.currency.trans own.currency,
    same.rawUnit.trans own.rawUnit⟩

/-- The constituents are records that the authority returned for their claim. -/
def Authentic (authorities : Authorities) (request : AssemblyRequest) : Prop :=
  ∀ item ∈ request.constituents,
    item.record ∈ authorities.overlappingEvidence item.record.identity.entityId
      item.record.identity.economicClaimId request.accountingWindowStart.instant
      request.accountingWindowEnd.instant request.replayCutoff

/-- The records that the authority returns for a claim have different ids. -/
def UniqueIds (authorities : Authorities) (request : AssemblyRequest) : Prop :=
  ∀ entityId economicClaimId, ((authorities.overlappingEvidence entityId economicClaimId
    request.accountingWindowStart.instant request.accountingWindowEnd.instant request.replayCutoff).map
      (·.recordId)).Nodup

theorem eq_of_place {first : AssemblyConstituent} (authentic : Authentic authorities request)
    (unique : UniqueIds authorities request) (agree : Agree request.constituents)
    (scope : ∀ item ∈ request.constituents, SameScope authorities first item) {a b : AssemblyConstituent}
    (a_in : a ∈ request.constituents) (b_in : b ∈ request.constituents) (same : a.place = b.place) : a = b := by
  have ids : a.record.recordId = b.record.recordId := (Prod.mk.inj same).2
  have a_there := authentic a a_in
  have b_there := authentic b b_in
  rw [(scope a a_in).entityId, (scope a a_in).economicClaimId] at a_there
  rw [(scope b b_in).entityId, (scope b b_in).economicClaimId] at b_there
  have records : a.record = b.record := List.inj_on_of_nodup_map (unique _ _) a_there b_there ids
  have windows : a.window = b.window := by rw [AssemblyConstituent.window, records]; rfl
  exact eq_of_relevant records (agree a a_in b b_in windows)

/-- The constituents that are left do not depend on the order and the repetition of all. -/
theorem distinctConstituents_congr {first : AssemblyConstituent} {others : List AssemblyConstituent}
    (authentic : Authentic authorities request) (unique : UniqueIds authorities request)
    (agree : Agree request.constituents) (scope : ∀ item ∈ request.constituents, SameScope authorities first item)
    (same : ∀ item, item ∈ others ↔ item ∈ request.constituents) :
    distinctConstituents others = distinctConstituents request.constituents := by
  refine (firsts_congr (fun a => le_refl a.place) sortConstituents_sorted sortConstituents_sorted
    ?_ ?_).symm
  · intro a a_in b b_in below above
    exact eq_of_place authentic unique agree scope (mem_sortConstituents.mp a_in)
      (mem_sortConstituents.mp b_in) (le_antisymm below above)
  · intro item
    rw [mem_sortConstituents, mem_sortConstituents, same]

theorem checkSeries_tiles {first : AssemblyConstituent} {rest : List AssemblyConstituent} {finish : Moment}
    (ok : checkSeries (first :: rest) = .ok ())
    (last : ((first :: rest).getLast (List.cons_ne_nil _ _)).record.accountingPeriodEnd = finish) :
    Tiles finish first.record.accountingPeriodStart ((first :: rest).map AssemblyConstituent.window) := by
  induction rest generalizing first with
  | nil => exact ⟨rfl, last⟩
  | cons second rest ih =>
      obtain ⟨follows, ok⟩ := check_ok.mp ok
      obtain ⟨after, before⟩ := require_bind_ok.mp follows
      have meets : second.record.accountingPeriodStart = first.record.accountingPeriodEnd :=
        le_antisymm (require_ok.mp before) after
      refine ⟨rfl, ?_⟩
      show Tiles finish first.record.accountingPeriodEnd _
      rw [← meets]
      exact ih ok (by rwa [List.getLast_cons (List.cons_ne_nil _ _)] at last)

theorem validateCoverage_tiles {first : AssemblyConstituent} {rest : List AssemblyConstituent}
    (ok : validateCoverage request first rest = .ok ()) :
    Tiles request.accountingWindowEnd.instant request.accountingWindowStart.instant
      ((first :: rest).map AssemblyConstituent.window) := by
  obtain ⟨start, ok⟩ := require_bind_ok.mp ok
  obtain ⟨finish, ok⟩ := require_bind_ok.mp ok
  rw [← start]
  exact checkSeries_tiles ok finish

/-- The amount that a constituent discloses. -/
def AssemblyConstituent.worth (item : AssemblyConstituent) : ℚ := (item.amount.map Decimal.value).getD 0

theorem amounts_worth {amounts : List Decimal} (read : items.mapM AssemblyConstituent.amount = some amounts) :
    amounts.map Decimal.value = items.map AssemblyConstituent.worth := by
  induction items generalizing amounts with
  | nil =>
      cases read
      rfl
  | cons item items ih =>
      simp only [List.mapM_cons, Option.bind_eq_bind, Option.bind_eq_some_iff, Option.pure_def,
        Option.some.injEq] at read
      obtain ⟨amount, own, others, rest, rfl⟩ := read
      rw [List.map_cons, List.map_cons, ih rest, AssemblyConstituent.worth, own]
      rfl

/-- No partial sum has more digits than the arithmetic keeps. -/
def Representable (items : List AssemblyConstituent) : Prop :=
  ∀ front, front ≠ [] → front <+: items → Decimal.Fits (front.map AssemblyConstituent.worth).sum

theorem sumAmounts_exact {total : Decimal} (summed : sumAmounts items = .ok total)
    (fits : Representable items) : total.value = (items.map AssemblyConstituent.worth).sum := by
  unfold sumAmounts at summed
  cases read : items.mapM AssemblyConstituent.amount with
  | none =>
      rw [read] at summed
      cases summed
  | some amounts =>
      rw [read] at summed
      cases added : Decimal.sum amounts with
      | none =>
          simp only [added] at summed
          cases summed
      | some found =>
          simp only [added] at summed
          cases summed
          have values := amounts_worth read
          have zero : Decimal.zero.value = 0 := by simp [Decimal.value, Decimal.zero]
          have exact := Decimal.sum_exact added fun front nonempty below => by
            rw [zero, zero_add]
            obtain ⟨back, rfl⟩ := below
            rw [List.map_append] at values
            obtain ⟨early, late, split, early_worth, -⟩ := List.map_eq_append_iff.mp values.symm
            rw [← early_worth]
            refine fits early ?_ ⟨late, split.symm⟩
            rintro rfl
            exact nonempty (List.map_eq_nil_iff.mp early_worth.symm)
          rw [exact, zero, zero_add, values]

variable {record : AssembledFundamentalEvidenceRecord} {contract : MethodologyEvidenceInputContract}
  {registry : EvidenceShapeRegistry}

theorem assembleSelected_ok
    (made : assembleSelected authorities request contract registry selected = .ok record) :
    ∃ first rest amount weakest, selected = first :: rest ∧ rest ≠ [] ∧
      validateScope authorities first rest = .ok () ∧
      validateAuthoritativeUniverse authorities request first rest = .ok () ∧
      validateCoverage request first rest = .ok () ∧ sumAmounts (first :: rest) = .ok amount ∧
      record = assembledRecord request registry contract first rest amount weakest ∧
      checkRecord record = .ok () := by
  match selected with
  | [] | [_] => cases made
  | first :: second :: others =>
      simp only [assembleSelected, bind_ok, exists_unit, require_ok, pure_eq_ok, Except.ok.injEq] at made
      obtain ⟨shapes, -, -, scope, candidates, coverage, -, -, -, amount, added, weakest, -, checked, rfl⟩ :=
        made
      exact ⟨first, second :: others, amount, weakest, rfl, List.cons_ne_nil _ _, scope, candidates,
        coverage, added, rfl, checked⟩

theorem construct_iff : construct authorities request = .ok record ↔
    2 ≤ request.constituents.length ∧ ∃ contract registry,
      fetchContract authorities request = .ok contract ∧ fetchRegistry authorities request = .ok registry ∧
      validateMethodologyContract authorities contract request = .ok () ∧
      (∀ item ∈ request.constituents,
        checkSemantics authorities request.replayCutoff item = .ok ()) ∧
      Agree request.constituents ∧
      assembleSelected authorities request contract registry (distinctConstituents request.constituents) =
        .ok record := by
  have members : Agree (sortConstituents request.constituents) ↔ Agree request.constituents :=
    ⟨agree_congr fun _ => mem_sortConstituents.symm, agree_congr fun _ => mem_sortConstituents⟩
  simp only [construct, bind_ok, exists_unit, require_ok, forM_ok, deduplicateIdentical_ok,
    mem_sortConstituents, members, and_assoc, exists_and_left, exists_eq_left', distinctConstituents]

theorem validateMethodologyContract_congr {first : AssemblyConstituent} {others : List AssemblyConstituent}
    (scope : ∀ item ∈ request.constituents, SameScope authorities first item)
    (same : ∀ item, item ∈ others ↔ item ∈ request.constituents)
    (ok : validateMethodologyContract authorities contract request = .ok ()) :
    validateMethodologyContract authorities contract { request with constituents := others } = .ok () := by
  unfold validateMethodologyContract at ok
  split at ok
  · cases ok
  rename_i head rest left
  have head_in : head ∈ request.constituents := left ▸ List.mem_cons_self
  cases listed : others with
  | nil => exact absurd (listed ▸ (same head).mpr head_in) List.not_mem_nil
  | cons other later =>
      have other_in : other ∈ request.constituents := (same other).mp (listed ▸ List.mem_cons_self)
      have own := scope head head_in
      have their := scope other other_in
      have members : ∀ item, item ∈ other :: later → item ∈ head :: rest := by
        intro item member
        exact left ▸ (same item).mp (listed ▸ member)
      simp only [validateMethodologyContract, require_bind_ok, require_ok] at ok ⊢
      obtain ⟨opted, rule, shapes, window, flags, policy, entity, representation, pathway, ⟨currency, unit⟩,
        crossing⟩ := ok
      refine ⟨opted, rule, fun item member => shapes item (members item member), window, flags, policy,
        ?_, ?_, fun item member => pathway item (members item member), ⟨?_, ?_⟩, crossing⟩
      · rw [entity, own.entityId, their.entityId]
      · rw [representation, own.representationId, their.representationId]
      · rw [currency, own.currency, their.currency]
      · rw [unit, own.rawUnit, their.rawUnit]

/-- The same constituents, in another order or repeated, make the same record. -/
theorem construct_congr {others : List AssemblyConstituent} (authentic : Authentic authorities request)
    (unique : UniqueIds authorities request)
    (same : ∀ item, item ∈ others ↔ item ∈ request.constituents)
    (made : construct authorities request = .ok record) :
    construct authorities { request with constituents := others } = .ok record := by
  obtain ⟨-, contract, registry, fetched, found, accepted, known, agree, assembled⟩ := construct_iff.mp made
  obtain ⟨first, rest, amount, weakest, left, more, checked, -⟩ := assembleSelected_ok assembled
  have scope := scope_of_distinct agree left checked
  have equal := distinctConstituents_congr authentic unique agree scope same
  have enough : 2 ≤ others.length := by
    have shorter : (distinctConstituents others).length ≤ others.length := by
      have perm : (sortConstituents others).Perm others := List.mergeSort_perm _ _
      exact (firsts_sublist _).length_le.trans_eq perm.length_eq
    rw [equal, left, List.length_cons] at shorter
    have positive := List.length_pos_iff.mpr more
    omega
  refine construct_iff.mpr ⟨enough, contract, registry, fetched, found,
    validateMethodologyContract_congr scope same accepted, fun item member => known item ((same item).mp member),
    agree_congr same agree, ?_⟩
  rw [equal]
  exact assembled

theorem assemble_ok {stored after : Store} :
    assemble authorities stored request = .ok (record, after) ↔
      construct authorities request = .ok record ∧ authorizeCorrection stored record = .ok () ∧
        insertAuthorized stored record = .ok after := by
  simp only [assemble, bind_ok, exists_unit, pure_eq_ok, Except.ok.injEq, Prod.mk.injEq]
  constructor
  · rintro ⟨made, constructed, authorized, next, inserted, rfl, rfl⟩
    exact ⟨constructed, authorized, inserted⟩
  · rintro ⟨constructed, authorized, inserted⟩
    exact ⟨record, constructed, authorized, after, inserted, rfl, rfl⟩

/-- The amount of a record that was assembled is the exact total of what the authority disclosed. -/
structure ExactTotal (authorities : Authorities) (stored : Store) (request : AssemblyRequest)
    (record : AssembledFundamentalEvidenceRecord) (after : Store) : Prop where
  constituents : record.constituentRecordIds =
    (distinctConstituents request.constituents).map (·.record.recordId)
  covers : ∀ time : Moment, (∃ item ∈ distinctConstituents request.constituents,
      time ∈ Set.Ico item.record.accountingPeriodStart item.record.accountingPeriodEnd) ↔
    time ∈ Set.Ico request.accountingWindowStart.instant request.accountingWindowEnd.instant
  disjoint : (distinctConstituents request.constituents).Pairwise fun a b =>
    Disjoint (Set.Ico a.record.accountingPeriodStart a.record.accountingPeriodEnd)
      (Set.Ico b.record.accountingPeriodStart b.record.accountingPeriodEnd)
  authentic : Authentic authorities request
  amount : record.amount.value =
    ((distinctConstituents request.constituents).map AssemblyConstituent.worth).sum
  steady : ∀ others, (∀ item, item ∈ others ↔ item ∈ request.constituents) →
    assemble authorities stored { request with constituents := others } = .ok (record, after)

theorem assembled_exact {stored after : Store}
    (assembled : assemble authorities stored request = .ok (record, after))
    (unique : UniqueIds authorities request) (authentic : Authentic authorities request)
    (fits : Representable (distinctConstituents request.constituents)) :
    ExactTotal authorities stored request record after := by
  obtain ⟨made, authorized, inserted⟩ := assemble_ok.mp assembled
  obtain ⟨-, contract, registry, -, -, -, -, -, selected⟩ := construct_iff.mp made
  obtain ⟨first, rest, amount, weakest, left, -, -, -, coverage, added, same, -⟩ :=
    assembleSelected_ok selected
  have tiles := validateCoverage_tiles coverage
  have forward : ∀ period ∈ (first :: rest).map AssemblyConstituent.window, period.1 ≤ period.2 := by
    intro period member
    obtain ⟨item, -, rfl⟩ := List.mem_map.mp member
    exact item.record.period
  refine ⟨?_, fun time => ?_, ?_, authentic, ?_, fun others members => ?_⟩
  · rw [same, left]
    rfl
  · rw [left, ← tiles.covers forward time]
    simp only [List.mem_map, exists_exists_and_eq_and]
    rfl
  · rw [left]
    have apart := tiles.disjoint forward
    rw [List.pairwise_map] at apart
    exact apart
  · rw [left] at fits ⊢
    rw [same]
    exact sumAmounts_exact added fits
  · exact assemble_ok.mpr ⟨construct_congr authentic unique members made, authorized, inserted⟩

/-- Nothing competes where the candidates are the constituents. -/
theorem validateAuthoritativeUniverse_of_all {first : AssemblyConstituent} {rest : List AssemblyConstituent}
    (apart : request.accountingWindowStart.instant ≠ request.accountingWindowEnd.instant)
    (all : ∀ id, id ∈ (authorities.overlappingEvidence first.record.identity.entityId
        first.record.identity.economicClaimId request.accountingWindowStart.instant
        request.accountingWindowEnd.instant request.replayCutoff).map (·.recordId) ↔
      id ∈ (first :: rest).map (·.record.recordId)) :
    validateAuthoritativeUniverse authorities request first rest = .ok () := by
  have nothing : coveragePaths request.accountingWindowEnd.instant request.accountingWindowStart.instant
      [] = [] := by
    rw [coveragePaths, if_neg apart]
    rfl
  have none_left : omitted authorities request.replayCutoff first (first :: rest)
      (authorities.overlappingEvidence first.record.identity.entityId
        first.record.identity.economicClaimId request.accountingWindowStart.instant
        request.accountingWindowEnd.instant request.replayCutoff) = [] := by
    unfold omitted
    refine List.filter_eq_nil_iff.mpr fun record member => ?_
    obtain ⟨member, free⟩ := List.mem_filter.mp member
    exact absurd ((all _).mp (List.mem_map_of_mem member)) (of_decide_eq_true free).1
  simp only [validateAuthoritativeUniverse, require_bind_ok, require_ok, none_left, nothing]
  refine ⟨fun item member => (all _).mpr (List.mem_map_of_mem member),
    fun _ absent => absurd absent List.not_mem_nil, Or.inl trivial,
    Or.inr fun _ absent => absurd absent List.not_mem_nil⟩

def sampleIdentity : ValueCapture.EconomicClaimIdentity :=
  ⟨"e", "e", "e", "e", "e", "", "", by decide, ValueCapture.EconomicClaimIdentity.no_contract⟩

def dawn : Moment := ⟨0, Calendar.zero_lt_end⟩

def noon : Moment := ⟨1, by decide⟩

def dusk : Moment := ⟨2, by decide⟩

def zeros : String := "0000000000000000000000000000000000000000000000000000000000000000"

theorem one_bounded : ValueCapture.boundedDecimal "1" :=
  ⟨⟨false, 1, 0⟩, by decide, by simp [Decimal.value]⟩

def night : Moment := ⟨3, by decide⟩

/-- The first or the second record of a claim, with an amount. -/
def sampleRecord (second : Bool) (amount : String) (parsed : (Decimal.parse amount.scalars).isSome) :
    FundamentalEvidenceRecord where
  recordId := if second then "b" else "a"
  logicalId := "l"
  schemaVersion := "1"
  semanticVersion := "1"
  identity := sampleIdentity
  evidenceType := .officialDisclosure
  sourceId := "s"
  sourceAuthorityTier := "1"
  sourceReference := "r"
  parserVersion := "1"
  extractedClaim := "c"
  amount := some amount
  unit := some "usd"
  accountingPeriodStart := if second then noon else dawn
  accountingPeriodEnd := if second then dusk else noon
  attributionRuleId := "p"
  sourceMethodology := "m"
  sourceRecordId := "o"
  sourceRecordVersion := "1"
  entityLinkConfidence := "1"
  evidenceConfidence := "1"
  uncertainty := "1"
  effectiveAt := dusk
  recordedAt := dusk
  knownAt := dusk
  rawContentHash := zeros
  qualityState := .accepted
  conflictState := .none
  supersedesRecordId := none
  correctionReason := ""
  contentHash := "h"
  acquisitionId := "q"
  texts := by cases second <;> decide
  effective := le_refl _
  recorded := le_refl _
  correction := ⟨fun _ => by decide, fun _ => Or.inl rfl⟩
  period := by cases second <;> decide
  observed := by cases second <;> decide
  bounded := by
    intro text member
    have one : text = "1" := by simpa using member
    exact one ▸ one_bounded
  hashed := ⟨by decide, String.forall_scalars_of_all (by decide)⟩
  measured := by
    intro text member
    cases member
    exact ⟨parsed, "usd", rfl, by decide⟩
  unmeasured := nofun

def sampleConstituent (second : Bool) (amount : String) (parsed : (Decimal.parse amount.scalars).isSome) :
    AssemblyConstituent where
  record := sampleRecord second amount parsed
  shapeId := "flow"
  currency := "usd"
  rawUnit := "usd"
  accountingMeaning := .periodSpecific
  supplyBasisId := "u"
  pathwayId := "p"
  representationContinuityProofId := ""
  pathwayContinuityProofId := ""
  supplyBasisContinuityProofId := ""
  texts := by decide
  measured := ⟨rfl, rfl⟩

/-- The shape of the first or of the second version of a registry. -/
def flowShape (later : Bool) : EvidenceShape :=
  ⟨"flow", if later then "w" else "v", "official_disclosure", .periodSpecific, "c", .exactSum, true,
    by cases later <;> decide⟩

def sampleContract : MethodologyEvidenceInputContract where
  contractId := "m"
  contractVersion := "1"
  acceptsAssembledEvidence := true
  acceptedShapeIds := ["flow"]
  acceptedAssemblyRuleVersions := [assemblyRuleVersion]
  accountingWindowStart := dawn
  accountingWindowEnd := dusk
  exactGapFreeNonOverlappingCoverageRequired := true
  allowRepresentationBoundaryCrossing := false
  allowPathwayBoundaryCrossing := false
  allowSupplyBasisBoundaryCrossing := false
  provenanceContentHashRequired := true
  conflictPolicy := "reject"
  minimumQualityState := "accepted"
  entityId := "e"
  representationId := "e"
  valueCapturePathwayId := "p"
  currency := "usd"
  unit := "usd"
  missingnessBehavior := "unavailable"
  strictKnownRequired := true
  effectiveAt := dawn
  recordedAt := dawn
  knownAt := dawn
  qualityState := .accepted
  conflictState := .none

def flowRegistry (later : Bool) : EvidenceShapeRegistry where
  recordId := "g"
  schemaVersion := "1"
  semanticVersion := "1"
  version := if later then "w" else "v"
  shapes := [flowShape later]
  effectiveAt := dawn
  recordedAt := dawn
  knownAt := dawn
  conflictState := .none
  contentHash := "h"
  supersedesVersion := none
  supersedesRecordId := none
  correctionReason := ""

def sampleSemantics (recordId recordVersion : String) : AuthoritativeEvidenceSemantics where
  evidenceRecordId := recordId
  evidenceRecordVersion := recordVersion
  shapeId := "flow"
  currency := "usd"
  rawUnit := "usd"
  accountingMeaning := .periodSpecific
  supplyBasisId := "u"
  pathwayId := "p"
  effectiveAt := dawn
  recordedAt := dawn
  knownAt := dawn
  qualityState := .accepted
  conflictState := .none
  representationContinuityAsserted := false
  representationContinuityProofId := ""

/-- Authorities that return some records of the claim. -/
def sampleAuthorities (records : List FundamentalEvidenceRecord) : Authorities where
  overlappingEvidence _ _ _ _ _ := records
  strictKnownContract _ _ _ _ := some sampleContract
  strictKnownRegistry version _ := some (flowRegistry (version = "w"))
  strictKnownSemantics recordId recordVersion _ := some (sampleSemantics recordId recordVersion)
  casefold text := String.ofList (Chars.lower text.scalars)

def daysRequest (later : Bool) (constituents : List AssemblyConstituent) : AssemblyRequest where
  constituents := constituents
  accountingWindowStart := ⟨dawn, dawn.isoformat, by decide⟩
  accountingWindowEnd := ⟨dusk, dusk.isoformat, by decide⟩
  recordedAt := dusk
  replayCutoff := dusk
  methodologyContractId := "m"
  methodologyContractVersion := "1"
  evidenceShapeRegistryVersion := if later then "w" else "v"
  semanticVersion := "1"
  supersedesRecordId := none
  correctionReason := ""

/-- The root of the days at dusk, or a correction of a record at night. -/
def correctionRequest (later : Bool) (supersedes : Option String) (constituents : List AssemblyConstituent) :
    AssemblyRequest :=
  { daysRequest later constituents with
    recordedAt := if supersedes.isSome then night else dusk
    replayCutoff := if supersedes.isSome then night else dusk
    supersedesRecordId := supersedes
    correctionReason := if supersedes.isSome then "restated" else "" }

def large : String := "10000000000000000000000000001"

/-- The amounts of the sample claims and their sums in the arithmetic context. -/
theorem sample_amounts :
    Decimal.parse large.scalars = some ⟨false, 10000000000000000000000000001, 0⟩ ∧
    Decimal.parse "1".scalars = some ⟨false, 1, 0⟩ ∧
    Decimal.parse "2".scalars = some ⟨false, 2, 0⟩ ∧
    Decimal.sum [⟨false, 10000000000000000000000000001, 0⟩, ⟨false, 1, 0⟩] =
      some ⟨false, 1000000000000000000000000000, 1⟩ ∧
    Decimal.sum [⟨false, 1, 0⟩, ⟨false, 2, 0⟩] = some ⟨false, 3, 0⟩ := by
  decide

theorem large_parsed : Decimal.parse large.scalars = some ⟨false, 10000000000000000000000000001, 0⟩ :=
  sample_amounts.1

theorem one_parsed : Decimal.parse "1".scalars = some ⟨false, 1, 0⟩ :=
  sample_amounts.2.1

theorem two_parsed : Decimal.parse "2".scalars = some ⟨false, 2, 0⟩ :=
  sample_amounts.2.2.1

theorem large_sum : Decimal.sum [⟨false, 10000000000000000000000000001, 0⟩, ⟨false, 1, 0⟩] =
    some ⟨false, 1000000000000000000000000000, 1⟩ :=
  sample_amounts.2.2.2.1

theorem small_sum : Decimal.sum [⟨false, 1, 0⟩, ⟨false, 2, 0⟩] = some ⟨false, 3, 0⟩ :=
  sample_amounts.2.2.2.2

/-- The two records of the claim with their amounts. -/
def sampleRecords (first second : String) (a : (Decimal.parse first.scalars).isSome)
    (b : (Decimal.parse second.scalars).isSome) : List FundamentalEvidenceRecord :=
  [sampleRecord false first a, sampleRecord true second b]

section

variable {first second third fourth : String} {a : (Decimal.parse first.scalars).isSome}
  {b : (Decimal.parse second.scalars).isSome} {c : (Decimal.parse third.scalars).isSome}
  {d : (Decimal.parse fourth.scalars).isSome}

theorem sample_distinct : distinctConstituents [sampleConstituent false first a, sampleConstituent true second b] =
    [sampleConstituent false first a, sampleConstituent true second b] := by
  have apart : (sampleConstituent true second b).window ≠ (sampleConstituent false first a).window := by
    show (noon, dusk) ≠ (dawn, noon)
    decide
  have sorted : sortConstituents [sampleConstituent false first a, sampleConstituent true second b] =
      [sampleConstituent false first a, sampleConstituent true second b] := by
    refine List.mergeSort_of_pairwise (List.pairwise_pair.mpr ?_)
    show decide ((toLex (dawn, "a") : Moment ×ₗ String) ≤ toLex (noon, "b")) = true
    decide
  rw [distinctConstituents, sorted, firsts, firsts, firsts, List.filter_nil,
    List.filter_cons_of_pos (by simpa using apart), List.filter_nil]

theorem sample_sum {x y total : Decimal} (x_read : Decimal.parse first.scalars = some x)
    (y_read : Decimal.parse second.scalars = some y) (added : Decimal.sum [x, y] = some total) :
    sumAmounts [sampleConstituent false first a, sampleConstituent true second b] = .ok total := by
  have read : [sampleConstituent false first a, sampleConstituent true second b].mapM
      AssemblyConstituent.amount = some [x, y] := by
    have own : (sampleConstituent false first a).amount = some x := x_read
    have other : (sampleConstituent true second b).amount = some y := y_read
    rw [List.mapM_cons, List.mapM_cons, own, other]
    rfl
  simp only [sumAmounts, read, added]

theorem sample_weakest : weakestConfidence (sampleConstituent false first a)
    [sampleConstituent true second b] = .ok ⟨false, 1, 0⟩ := by
  have read : [sampleConstituent false first a, sampleConstituent true second b].mapM
      (fun item => Decimal.parse item.record.evidenceConfidence.scalars) =
        some [⟨false, 1, 0⟩, ⟨false, 1, 0⟩] := by
    show [sampleConstituent false first a, sampleConstituent true second b].mapM
      (fun _ => Decimal.parse "1".scalars) = _
    rw [one_parsed]
    rfl
  simp only [weakestConfidence, read]
  exact congrArg _ (if_neg (lt_irrefl _))

/-- Two constituents of the days make a record, whatever their amounts are. -/
theorem sample_corrects (later : Bool) (supersedes : Option String) {x y total : Decimal}
    (x_read : Decimal.parse first.scalars = some x) (y_read : Decimal.parse second.scalars = some y)
    (added : Decimal.sum [x, y] = some total) :
    construct (sampleAuthorities (sampleRecords third fourth c d))
        (correctionRequest later supersedes [sampleConstituent false first a, sampleConstituent true second b]) =
      .ok (assembledRecord
        (correctionRequest later supersedes [sampleConstituent false first a, sampleConstituent true second b])
        (flowRegistry later) sampleContract (sampleConstituent false first a)
        [sampleConstituent true second b] total ⟨false, 1, 0⟩) := by
  let authorities := sampleAuthorities (sampleRecords third fourth c d)
  let one := sampleConstituent false first a
  let two := sampleConstituent true second b
  let request := correctionRequest later supersedes [one, two]
  have agree : Agree [one, two] := by
    refine agree_of_distinct ?_
    show [(dawn, noon), (noon, dusk)].Nodup
    decide
  have known : ∀ item ∈ [one, two], checkSemantics authorities request.replayCutoff item = .ok () := by
    intro item member
    simp only [List.mem_cons, List.not_mem_nil, or_false] at member
    cases member with
    | inl here => rw [here]; cases supersedes <;> rfl
    | inr here => rw [here]; cases supersedes <;> rfl
  have candidates : validateAuthoritativeUniverse authorities request one [two] = .ok () := by
    have apart : dawn ≠ dusk := by decide
    exact validateAuthoritativeUniverse_of_all apart fun id => Iff.rfl
  have shapes : requireExactSumCompatible (flowRegistry later) ["flow", "flow"] =
      .ok [flowShape later, flowShape later] := by
    cases later <;> rfl
  have late : dusk ≤ request.recordedAt := by
    cases supersedes
    · exact le_refl dusk
    · exact (show dusk ≤ night by decide)
  have selected : assembleSelected authorities request sampleContract (flowRegistry later) [one, two] =
      .ok (assembledRecord request (flowRegistry later) sampleContract one [two] total ⟨false, 1, 0⟩) := by
    simp only [assembleSelected, bind_ok, exists_unit, require_ok, pure_eq_ok, Except.ok.injEq]
    refine ⟨_, shapes, by cases later <;> cases supersedes <;> rfl, rfl, candidates, rfl,
      le_refl request.recordedAt, late, max_le late late, total, sample_sum x_read y_read added,
      ⟨false, 1, 0⟩, sample_weakest, ?_, rfl⟩
    simp only [checkRecord, require_bind_ok, require_ok]
    refine ⟨?_, ?_, ?_, ?_, ?_⟩
    · show blank "1" = false
      decide
    · show dawn < dusk
      decide
    · show ["a", "b"].Nodup
      decide
    · cases supersedes
      · exact Or.inr rfl
      · exact Or.inl (Option.some_ne_none _)
    · cases supersedes
      · exact Or.inl rfl
      · exact Or.inr (show blank "restated" = false by decide)
  refine construct_iff.mpr ⟨le_refl 2, sampleContract, flowRegistry later, by cases supersedes <;> rfl,
    by cases later <;> cases supersedes <;> rfl, rfl, known, agree, ?_⟩
  have left : distinctConstituents request.constituents = [one, two] := sample_distinct
  rw [left]
  exact selected

theorem sample_constructs (later : Bool) {x y total : Decimal} (x_read : Decimal.parse first.scalars = some x)
    (y_read : Decimal.parse second.scalars = some y) (added : Decimal.sum [x, y] = some total) :
    construct (sampleAuthorities (sampleRecords third fourth c d))
        (daysRequest later [sampleConstituent false first a, sampleConstituent true second b]) =
      .ok (assembledRecord
        (daysRequest later [sampleConstituent false first a, sampleConstituent true second b])
        (flowRegistry later) sampleContract (sampleConstituent false first a)
        [sampleConstituent true second b] total ⟨false, 1, 0⟩) :=
  sample_corrects later none x_read y_read added

theorem sample_assembles {x y total : Decimal} (x_read : Decimal.parse first.scalars = some x)
    (y_read : Decimal.parse second.scalars = some y) (added : Decimal.sum [x, y] = some total) :
    ∃ record after, assemble (sampleAuthorities (sampleRecords third fourth c d)) []
        (daysRequest false [sampleConstituent false first a, sampleConstituent true second b]) =
      .ok (record, after) ∧ record.amount = total :=
  ⟨_, _, assemble_ok.mpr ⟨sample_constructs false x_read y_read added, rfl, rfl⟩, rfl⟩

theorem large_isSome : (Decimal.parse large.scalars).isSome := by
  rw [large_parsed]
  rfl

theorem one_isSome : (Decimal.parse "1".scalars).isSome := by
  rw [one_parsed]
  rfl

theorem two_isSome : (Decimal.parse "2".scalars).isSome := by
  rw [two_parsed]
  rfl

theorem sample_unique : UniqueIds (sampleAuthorities (sampleRecords first second a b)) request := by
  intro entityId economicClaimId
  show ["a", "b"].Nodup
  decide

theorem sample_worth {x : Decimal} {later : Bool} {amount : String}
    {parsed : (Decimal.parse amount.scalars).isSome} (read : Decimal.parse amount.scalars = some x) :
    (sampleConstituent later amount parsed).worth = x.value := by
  have own : (sampleConstituent later amount parsed).amount = some x := read
  rw [AssemblyConstituent.worth, own]
  rfl

theorem representable_pair {one two : AssemblyConstituent} (first : Decimal.Fits one.worth)
    (both : Decimal.Fits (one.worth + two.worth)) : Representable [one, two] := by
  intro front nonempty below
  cases List.prefix_cons_iff.mp below with
  | inl none => exact absurd none nonempty
  | inr more =>
      obtain ⟨rest, rfl, shorter⟩ := more
      cases List.prefix_cons_iff.mp shorter with
      | inl none => simpa [none] using first
      | inr last =>
          obtain ⟨others, rfl, empty⟩ := last
          rw [List.prefix_nil.mp empty]
          simpa using both

def largeRequest : AssemblyRequest :=
  daysRequest false [sampleConstituent false large large_isSome, sampleConstituent true "1" one_isSome]

def smallRequest : AssemblyRequest :=
  daysRequest false [sampleConstituent false "1" one_isSome, sampleConstituent true "2" two_isSome]

/-- A sum of too many digits is rounded, and a record is taken for the one that has its id. -/
theorem assembled_exact_fails :
    (∃ record after,
      assemble (sampleAuthorities (sampleRecords large "1" large_isSome one_isSome)) [] largeRequest =
        .ok (record, after) ∧
      UniqueIds (sampleAuthorities (sampleRecords large "1" large_isSome one_isSome)) largeRequest ∧
      ¬ExactTotal (sampleAuthorities (sampleRecords large "1" large_isSome one_isSome)) [] largeRequest
        record after) ∧
    ∃ record after,
      assemble (sampleAuthorities (sampleRecords "1" "1" one_isSome one_isSome)) [] smallRequest =
        .ok (record, after) ∧
      UniqueIds (sampleAuthorities (sampleRecords "1" "1" one_isSome one_isSome)) smallRequest ∧
      ¬ExactTotal (sampleAuthorities (sampleRecords "1" "1" one_isSome one_isSome)) [] smallRequest
        record after := by
  constructor
  · obtain ⟨record, after, assembled, amount⟩ := sample_assembles large_parsed one_parsed large_sum
    refine ⟨record, after, assembled, sample_unique, fun total => ?_⟩
    have exact := total.amount
    have left : distinctConstituents largeRequest.constituents = _ := sample_distinct
    rw [amount, left, List.map_cons, List.map_cons, List.map_nil, sample_worth large_parsed,
      sample_worth one_parsed] at exact
    norm_num [Decimal.value] at exact
  · obtain ⟨record, after, assembled, -⟩ := sample_assembles one_parsed two_parsed small_sum
    refine ⟨record, after, assembled, sample_unique, fun total => ?_⟩
    have there := total.authentic (sampleConstituent true "2" two_isSome)
      (List.mem_cons_of_mem _ List.mem_cons_self)
    have amounts : some "2" ∈ [some "1", some "1"] :=
      List.mem_map_of_mem (f := FundamentalEvidenceRecord.amount) there
    exact absurd amounts (by decide)

theorem assembled_exact_sample : ∃ record after,
    ExactTotal (sampleAuthorities (sampleRecords "1" "2" one_isSome two_isSome)) [] smallRequest
      record after := by
  obtain ⟨record, after, assembled, -⟩ := sample_assembles one_parsed two_parsed small_sum
  refine ⟨record, after, assembled_exact assembled sample_unique ?_ ?_⟩
  · intro item member
    have there : item.record ∈ sampleRecords "1" "2" one_isSome two_isSome :=
      List.mem_map_of_mem (f := AssemblyConstituent.record) member
    exact there
  · have left : distinctConstituents smallRequest.constituents = _ := sample_distinct
    rw [left]
    refine representable_pair ?_ ?_
    · rw [sample_worth one_parsed]
      exact ⟨1, 0, by decide, by decide, by norm_num [Decimal.value]⟩
    · rw [sample_worth one_parsed, sample_worth two_parsed]
      exact ⟨3, 0, by decide, by decide, by norm_num [Decimal.value]⟩

end

end Hunter.EvidenceAssembly
