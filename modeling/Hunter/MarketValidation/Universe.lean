import Hunter.MarketValidation.Authority
import Hunter.MarketValidation.Replay

/-!
The authorization of what a read of the history gives. Every admitted snapshot has a mapping
and a provenance that the authority takes, so an item is included just when it is eligible
and its entity is not included yet. Candidates whose ids differ only in surrounding blanks
are two for the history and one for the authority, which then raises.
-/

namespace Hunter.MarketValidation

open Calendar Fallible

/-- The item is included where its entity is not included before it. -/
def Qualified (cutoff : Moment) (item : MembershipEvidence) : Prop :=
  (judge cutoff [] item).1 = .included

theorem judge_included {cutoff : Moment} {used : List String} {item : MembershipEvidence} :
    (judge cutoff used item).1 = .included ↔
      Qualified cutoff item ∧ strip item.canonicalEntityId ∉ used := by
  unfold Qualified judge
  dsimp only
  split_ifs with naive late unproven unmapped ineligible taken none none
  · exact iff_of_false nofun fun both => absurd both.1 nofun
  · exact iff_of_false nofun fun both => absurd both.1 nofun
  · exact iff_of_false nofun fun both => absurd both.1 nofun
  · exact iff_of_false nofun fun both => absurd both.1 nofun
  · exact iff_of_false nofun fun both => absurd both.1 nofun
  · exact absurd none List.not_mem_nil
  · exact iff_of_false nofun fun both => both.2 taken
  · exact absurd none List.not_mem_nil
  · exact iff_of_true rfl ⟨rfl, taken⟩

/-- The entities that are included once the item is decided. -/
def usedAfter (cutoff : Moment) (used : List String) (item : MembershipEvidence) : List String :=
  if (judge cutoff used item).1 = .included then strip item.canonicalEntityId :: used else used

def decisionsOf (cutoff : Moment) : List String → List MembershipEvidence → List MembershipDecision
  | _, [] => []
  | used, item :: items =>
      ⟨strip item.candidateId, strip item.canonicalEntityId, (judge cutoff used item).1,
        (judge cutoff used item).2⟩ :: decisionsOf cutoff (usedAfter cutoff used item) items

def included (decisions : List MembershipDecision) : List String :=
  (decisions.filter fun decision => decision.outcome = .included).map MembershipDecision.entityId

theorem decisionsOf_candidates (cutoff : Moment) (used : List String) (items : List MembershipEvidence) :
    (decisionsOf cutoff used items).map MembershipDecision.candidateId =
      items.map fun item => strip item.candidateId := by
  induction items generalizing used with
  | nil => rfl
  | cons item items ih => rw [decisionsOf, List.map_cons, ih, List.map_cons]

theorem mem_decisionsOf {cutoff : Moment} {used : List String} {items : List MembershipEvidence}
    {decision : MembershipDecision} (inside : decision ∈ decisionsOf cutoff used items)
    (taken : decision.outcome = .included) :
    decision.entityId ∉ used ∧ ∃ item ∈ items, strip item.candidateId = decision.candidateId ∧
      strip item.canonicalEntityId = decision.entityId ∧ Qualified cutoff item := by
  induction items generalizing used with
  | nil => exact absurd inside List.not_mem_nil
  | cons item items ih =>
      rw [decisionsOf] at inside
      rcases List.mem_cons.mp inside with rfl | later
      · obtain ⟨qualified, fresh⟩ := judge_included.mp taken
        exact ⟨fresh, item, List.mem_cons_self, rfl, rfl, qualified⟩
      · obtain ⟨fresh, other, there, found⟩ := ih later
        refine ⟨fun old => fresh ?_, other, List.mem_cons_of_mem item there, found⟩
        unfold usedAfter
        split
        · exact List.mem_cons_of_mem _ old
        · exact old

theorem included_cons (cutoff : Moment) (used : List String) (item : MembershipEvidence)
    (items : List MembershipEvidence) :
    included (decisionsOf cutoff used (item :: items)) =
      (if (judge cutoff used item).1 = .included then [strip item.canonicalEntityId] else []) ++
        included (decisionsOf cutoff (usedAfter cutoff used item) items) := by
  rw [decisionsOf, included]
  by_cases taken : (judge cutoff used item).1 = .included
  · rw [List.filter_cons_of_pos (by simpa using taken), if_pos taken]
    rfl
  · rw [List.filter_cons_of_neg (by simpa using taken), if_neg taken]
    rfl

theorem included_fresh {cutoff : Moment} {used : List String} {items : List MembershipEvidence}
    {entity : String} (inside : entity ∈ included (decisionsOf cutoff used items)) : entity ∉ used := by
  obtain ⟨decision, there, rfl⟩ := List.mem_map.mp inside
  obtain ⟨there, taken⟩ := List.mem_filter.mp there
  exact (mem_decisionsOf there (of_decide_eq_true taken)).1

theorem included_nodup (cutoff : Moment) (used : List String) (items : List MembershipEvidence) :
    (included (decisionsOf cutoff used items)).Nodup := by
  induction items generalizing used with
  | nil => exact List.nodup_nil
  | cons item items ih =>
      rw [included_cons]
      by_cases taken : (judge cutoff used item).1 = .included
      · rw [if_pos taken, List.singleton_append, List.nodup_cons]
        refine ⟨fun again => included_fresh again ?_, ih _⟩
        rw [usedAfter, if_pos taken]
        exact List.mem_cons_self
      · rw [if_neg taken, List.nil_append]
        exact ih _

theorem included_of_qualified {cutoff : Moment} {used : List String} {items : List MembershipEvidence}
    {item : MembershipEvidence} (inside : item ∈ items) (qualified : Qualified cutoff item)
    (fresh : strip item.canonicalEntityId ∉ used) :
    strip item.canonicalEntityId ∈ included (decisionsOf cutoff used items) := by
  induction items generalizing used with
  | nil => exact absurd inside List.not_mem_nil
  | cons first items ih =>
      rw [included_cons]
      by_cases taken : (judge cutoff used first).1 = .included
      · rw [if_pos taken, usedAfter, if_pos taken]
        by_cases same : strip item.canonicalEntityId = strip first.canonicalEntityId
        · rw [same]
          exact List.mem_append_left _ (List.mem_singleton_self _)
        · refine List.mem_append_right _ (ih ?_ ?_)
          · rcases List.mem_cons.mp inside with rfl | later
            · exact absurd rfl same
            · exact later
          · exact fun old => (List.mem_cons.mp old).elim same fresh
      · rw [if_neg taken, usedAfter, if_neg taken, List.nil_append]
        rcases List.mem_cons.mp inside with rfl | later
        · exact absurd (judge_included.mpr ⟨qualified, fresh⟩) taken
        · exact ih later fresh

/-- No candidate is blank or is named before or twice. -/
def Distinct (usedCandidates : List String) (items : List MembershipEvidence) : Prop :=
  (items.map fun item => strip item.candidateId).Nodup ∧
    ∀ item ∈ items, strip item.candidateId ≠ "" ∧ strip item.candidateId ∉ usedCandidates

theorem decideItem_ok {cutoff : Moment} {progress after : Progress} {item : MembershipEvidence} :
    decideItem cutoff progress item = .ok after ↔
      (strip item.candidateId ≠ "" ∧ strip item.candidateId ∉ progress.usedCandidates) ∧
        after = progress.decided item (judge cutoff progress.usedEntities item).1
          (judge cutoff progress.usedEntities item).2 := by
  unfold decideItem
  split
  · rename_i stops
    refine ⟨nofun, fun ⟨⟨named, fresh⟩, _⟩ => ?_⟩
    exact absurd stops (not_or.mpr ⟨named, fresh⟩)
  · rename_i goes
    rw [Except.ok.injEq]
    exact ⟨fun same => ⟨not_or.mp goes, same.symm⟩, fun ⟨_, same⟩ => same.symm⟩

theorem distinct_cons {usedCandidates : List String} {item : MembershipEvidence}
    {items : List MembershipEvidence} :
    Distinct usedCandidates (item :: items) ↔
      (strip item.candidateId ≠ "" ∧ strip item.candidateId ∉ usedCandidates) ∧
        Distinct (strip item.candidateId :: usedCandidates) items := by
  unfold Distinct
  rw [List.map_cons, List.nodup_cons, List.forall_mem_cons]
  constructor
  · intro ⟨⟨apart, distinct⟩, first, rest⟩
    refine ⟨first, distinct, fun other there => ⟨(rest other there).1, fun again => ?_⟩⟩
    rcases List.mem_cons.mp again with same | old
    · exact apart (List.mem_map.mpr ⟨other, there, same⟩)
    · exact (rest other there).2 old
  · intro ⟨first, distinct, rest⟩
    refine ⟨⟨fun again => ?_, distinct⟩, first, fun other there =>
      ⟨(rest other there).1, fun old => (rest other there).2 (List.mem_cons_of_mem _ old)⟩⟩
    obtain ⟨other, there, same⟩ := List.mem_map.mp again
    exact (rest other there).2 (same ▸ List.mem_cons_self)

theorem foldlM_decideItem {cutoff : Moment} {items : List MembershipEvidence} {progress : Progress} :
    (∃ after, items.foldlM (decideItem cutoff) progress = .ok after) ↔
      Distinct progress.usedCandidates items := by
  induction items generalizing progress with
  | nil => exact ⟨fun _ => ⟨List.nodup_nil, by simp⟩, fun _ => ⟨progress, rfl⟩⟩
  | cons item items ih =>
      rw [distinct_cons, List.foldlM_cons]
      constructor
      · intro ⟨after, done⟩
        obtain ⟨next, first, rest⟩ := bind_ok.mp done
        obtain ⟨named, rfl⟩ := decideItem_ok.mp first
        exact ⟨named, ih.mp ⟨after, rest⟩⟩
      · intro ⟨named, distinct⟩
        rw [decideItem_ok.mpr ⟨named, rfl⟩, ok_bind]
        exact ih.mpr distinct

theorem foldlM_decisions {cutoff : Moment} {items : List MembershipEvidence} {progress after : Progress}
    (done : items.foldlM (decideItem cutoff) progress = .ok after) :
    after.decisions = progress.decisions ++ decisionsOf cutoff progress.usedEntities items := by
  induction items generalizing progress with
  | nil =>
      cases done
      exact (List.append_nil _).symm
  | cons item items ih =>
      rw [List.foldlM_cons] at done
      obtain ⟨next, first, rest⟩ := bind_ok.mp done
      obtain ⟨-, rfl⟩ := decideItem_ok.mp first
      rw [ih rest, Progress.decided, List.append_assoc]
      rfl

/-- The candidate has exact identity, verified provenance, times by the cutoff and a lifecycle
that is neither rejected nor archived. -/
structure Eligible (cutoff : Moment) (item : MembershipEvidence) : Prop where
  identity : item.identityOutcome = "exact"
  provenance : item.provenanceVerified = true
  known : ∃ moment, item.knownAt = .aware moment ∧ moment ≤ cutoff
  observed : ∃ moment, item.observedAt = .aware moment ∧ moment ≤ cutoff
  lifecycle : item.lifecycleStatus ∉ ["rejected", "archived"]

/-- What the authority asks of an item besides. -/
structure Mapped (item : MembershipEvidence) : Prop where
  candidate : strip item.candidateId ≠ ""
  entity : entityId item.canonicalEntityId = true
  project : item.project.projectId = item.canonicalEntityId
  source : blank item.sourceDigest = false
  registry : blank item.registryReference = false

theorem isSpace_of_printable {c : Char} (low : 33 ≤ c.toNat) (high : c.toNat ≤ 126) :
    Chars.isSpace c = false := by
  simp only [Chars.isSpace, Bool.or_eq_false_iff, Bool.and_eq_false_iff, decide_eq_false_iff_not,
    beq_eq_false_iff_ne]
  omega

theorem entityChar_visible {c : Char} (member : (entityStart c || c ∈ ['.', '_', ':', '-']) = true) :
    Chars.isSpace c = false := by
  rcases Bool.or_eq_true_iff.mp member with start | other
  · rcases Bool.or_eq_true_iff.mp start with letter | digit
    · obtain ⟨low, high⟩ := Bool.and_eq_true_iff.mp letter
      exact isSpace_of_printable (Nat.le_trans (by decide) (of_decide_eq_true low))
        (Nat.le_trans (of_decide_eq_true high) (by decide))
    · obtain ⟨low, high⟩ := Bool.and_eq_true_iff.mp digit
      exact isSpace_of_printable (Nat.le_trans (by decide) (of_decide_eq_true low))
        (Nat.le_trans (of_decide_eq_true high) (by decide))
  · have all : ['.', '_', ':', '-'].all (fun d => Chars.isSpace d = false) = true := by decide
    exact of_decide_eq_true (List.all_eq_true.mp all c (of_decide_eq_true other))

theorem strip_of_entityId {text : String} (entity : entityId text = true) : strip text = text := by
  have visible : ∀ c ∈ text.scalars, Chars.isSpace c = false := by
    unfold entityId at entity
    split at entity
    · cases entity
    · rename_i c rest split
      obtain ⟨first, others⟩ := Bool.and_eq_true_iff.mp entity
      rw [split]
      refine List.forall_mem_cons.mpr ⟨entityChar_visible (Bool.or_eq_true_iff.mpr (Or.inl first)), ?_⟩
      exact fun d there => entityChar_visible (List.all_eq_true.mp others d there)
  rw [strip, Chars.strip_of_visible visible, String.ofList_scalars]

theorem qualified_iff {cutoff : Moment} {item : MembershipEvidence} (mapped : Mapped item) :
    Qualified cutoff item ↔ Eligible cutoff item := by
  have entity := strip_of_entityId mapped.entity
  unfold Qualified judge
  dsimp only
  rw [entity]
  split_ifs with naive late unproven unmapped ineligible none
  · refine iff_of_false nofun fun eligible => ?_
    obtain ⟨known, knownAt, -⟩ := eligible.known
    obtain ⟨observed, observedAt, -⟩ := eligible.observed
    rw [knownAt, observedAt] at naive
    exact naive.elim nofun nofun
  · refine iff_of_false nofun fun eligible => ?_
    obtain ⟨known, knownAt, before⟩ := eligible.known
    obtain ⟨observed, observedAt, before'⟩ := eligible.observed
    rw [knownAt, observedAt] at late
    rcases late with later | later
    · exact absurd (of_decide_eq_true later) (not_lt.mpr before)
    · exact absurd (of_decide_eq_true later) (not_lt.mpr before')
  · refine iff_of_false nofun fun eligible => ?_
    rw [eligible.provenance, mapped.source, mapped.registry] at unproven
    simp at unproven
  · rw [mapped.entity, mapped.project] at unmapped
    simp at unmapped
  · refine iff_of_false nofun fun eligible => ?_
    exact ineligible.elim (absurd eligible.identity) eligible.lifecycle
  · exact absurd none List.not_mem_nil
  · refine iff_of_true rfl ?_
    obtain ⟨knownAware, observedAware⟩ := not_or.mp naive
    obtain ⟨knownBy, observedBy⟩ := not_or.mp late
    obtain ⟨exact_, lifecycle⟩ := not_or.mp ineligible
    refine ⟨not_not.mp exact_, ?_, ?_, ?_, lifecycle⟩
    · exact Bool.eq_true_of_not_eq_false (not_or.mp unproven).1
    · cases known : item.knownAt with
      | aware moment =>
          rw [known] at knownBy
          exact ⟨moment, rfl, not_lt.mp fun later => knownBy (decide_eq_true later)⟩
      | naive clock =>
          rw [known] at knownAware
          exact absurd rfl knownAware
    · cases observed : item.observedAt with
      | aware moment =>
          rw [observed] at observedBy
          exact ⟨moment, rfl, not_lt.mp fun later => observedBy (decide_eq_true later)⟩
      | naive clock =>
          rw [observed] at observedAware
          exact absurd rfl observedAware

theorem strip_ne_empty {text : String} (named : blank text = false) : strip text ≠ "" := by
  intro empty
  have none : Chars.strip text.scalars = [] := by
    have lists := congrArg String.toList empty
    rwa [strip, String.toList_ofList] at lists
  rw [blank, none] at named
  cases named

theorem blank_history (digest : String) : blank ("history:" ++ digest) = false := by
  have inside : 'h' ∈ ("history:" ++ digest).scalars := by
    rw [String.scalars_eq_toList, String.toList_append]
    exact List.mem_append_left _ (by decide)
  rw [blank, List.isEmpty_eq_false_iff]
  exact Chars.strip_ne_nil_of_mem inside (by decide)

theorem Admitted.mapped {entry : Entry} (admitted : Admitted entry)
    (verify : Option (String → String → Bool)) : Mapped (entry.evidence verify) := by
  obtain ⟨-, checked⟩ := require_bind_ok.mp admitted.checked
  obtain ⟨⟨candidate, -⟩, checked⟩ := require_bind_ok.mp checked
  obtain ⟨entity, checked⟩ := require_bind_ok.mp checked
  obtain ⟨project, checked⟩ := require_bind_ok.mp checked
  obtain ⟨⟨source, -⟩, -⟩ := require_bind_ok.mp checked
  exact ⟨strip_ne_empty candidate, entity, project, source, blank_history entry.digest⟩

theorem newest_of_visible {cutoff : Moment} {entries : List Entry} {entry : Entry}
    (ordered : entries.Pairwise fun a b => a.snapshot.candidateId = b.snapshot.candidateId →
      a.snapshot.knownAt < b.snapshot.knownAt)
    (inside : entry ∈ entries) (seen : entry.Visible cutoff) :
    ∃ newest, Newest cutoff entries newest ∧
      newest.snapshot.candidateId = entry.snapshot.candidateId := by
  have chosen : entry ∈ entries.filter (fun other => other.Visible cutoff ∧
      other.snapshot.candidateId = entry.snapshot.candidateId) :=
    List.mem_filter.mpr ⟨inside, decide_eq_true ⟨seen, rfl⟩⟩
  cases last : (entries.filter fun other => other.Visible cutoff ∧
      other.snapshot.candidateId = entry.snapshot.candidateId).getLast? with
  | none =>
      rw [List.getLast?_eq_none_iff.mp last] at chosen
      exact absurd chosen List.not_mem_nil
  | some newest => exact ⟨newest, (newest_iff ordered).mp last⟩

theorem ordered_perm {evidence other : List MembershipEvidence}
    (distinct : evidence.Pairwise fun a b => a.candidateId < b.candidateId)
    (same : other.Perm evidence) : ordered other = ordered evidence := by
  have sorted (items : List MembershipEvidence) :
      (ordered items).Pairwise fun a b => a.place ≤ b.place := by
    have whole : (ordered items).Pairwise fun a b => decide (a.place ≤ b.place) = true := by
      apply List.pairwise_mergeSort
      · intro a b c first second
        exact decide_eq_true ((of_decide_eq_true first).trans (of_decide_eq_true second))
      · intro a b
        simpa using le_total a.place b.place
    exact whole.imp of_decide_eq_true
  have keys : (evidence.map MembershipEvidence.candidateId).Nodup :=
    List.pairwise_map.mpr (distinct.imp fun less => ne_of_lt less)
  have back : (ordered other).Perm evidence := (List.mergeSort_perm _ _).trans same
  refine List.Perm.eq_of_pairwise ?_ (sorted other) (sorted evidence)
    (back.trans (List.mergeSort_perm _ _).symm)
  intro a b first second less more
  have place := le_antisymm less more
  refine List.inj_on_of_nodup_map keys (back.mem_iff.mp first)
    ((List.mergeSort_perm _ _).mem_iff.mp second) ?_
  exact congrArg (fun place => (ofLex place).1) place

/-- What is promised of an authorized universe. -/
structure Authorized (cutoff : Moment) (parameters : RunParameters) (evidence : List MembershipEvidence)
    (result : AuthorizedUniverse) : Prop where
  decided : (result.decisions.map MembershipDecision.candidateId).Perm
    (evidence.map fun item => strip item.candidateId)
  distinct : (result.decisions.map MembershipDecision.candidateId).Nodup
  once : (included result.decisions).Nodup
  eligible : ∀ decision ∈ result.decisions, decision.outcome = .included →
    ∃ item ∈ evidence, strip item.candidateId = decision.candidateId ∧
      item.canonicalEntityId = decision.entityId ∧ Eligible cutoff item
  covered : ∀ item ∈ evidence, Eligible cutoff item →
    (included result.decisions).count item.canonicalEntityId = 1
  unordered : ∀ other, other.Perm evidence → authorize other cutoff parameters = .ok result

/-- No two candidates that are visible at the cutoff have ids that differ in blanks only. -/
def Separate (cutoff : Moment) (entries : List Entry) : Prop :=
  ∀ a ∈ entries, ∀ b ∈ entries, a.Visible cutoff → b.Visible cutoff →
    strip a.snapshot.candidateId = strip b.snapshot.candidateId →
      a.snapshot.candidateId = b.snapshot.candidateId

theorem authorize_ok {evidence : List MembershipEvidence} {cutoff : Moment} {parameters : RunParameters}
    {result : AuthorizedUniverse} (done : authorize evidence cutoff parameters = .ok result) :
    Distinct [] (ordered evidence) ∧ result.decisions = decisionsOf cutoff [] (ordered evidence) := by
  obtain ⟨-, done⟩ := check_ok.mp done
  obtain ⟨progress, read, done⟩ := bind_ok.mp done
  cases done
  exact ⟨foldlM_decideItem.mp ⟨progress, read⟩, foldlM_decisions read⟩

theorem authorize_of_distinct {evidence : List MembershipEvidence} {cutoff : Moment}
    {parameters : RunParameters} (valid : checkParameters parameters = .ok ())
    (distinct : Distinct [] (ordered evidence)) :
    ∃ result, authorize evidence cutoff parameters = .ok result := by
  have loop : ∃ after, (ordered evidence).foldlM (decideItem cutoff) ⟨[], [], [], []⟩ = .ok after :=
    foldlM_decideItem.mpr distinct
  obtain ⟨progress, read⟩ := loop
  rw [authorize, valid, ok_bind, read]
  exact ⟨_, rfl⟩

theorem authorized_of_ok {evidence : List MembershipEvidence} {cutoff : Moment}
    {parameters : RunParameters} {result : AuthorizedUniverse}
    (sorted : evidence.Pairwise fun a b => a.candidateId < b.candidateId)
    (mapped : ∀ item ∈ evidence, Mapped item)
    (done : authorize evidence cutoff parameters = .ok result) :
    Authorized cutoff parameters evidence result := by
  obtain ⟨distinct, decisions⟩ := authorize_ok done
  have perm : (ordered evidence).Perm evidence := List.mergeSort_perm _ _
  have entity {item : MembershipEvidence} (inside : item ∈ evidence) :
      strip item.canonicalEntityId = item.canonicalEntityId :=
    strip_of_entityId (mapped item inside).entity
  constructor
  · rw [decisions, decisionsOf_candidates]
    exact perm.map _
  · rw [decisions, decisionsOf_candidates]
    exact distinct.1
  · rw [decisions]
    exact included_nodup cutoff [] _
  · intro decision inside taken
    rw [decisions] at inside
    obtain ⟨-, item, there, candidate, same, qualified⟩ := mem_decisionsOf inside taken
    have member := perm.mem_iff.mp there
    exact ⟨item, member, candidate, (entity member).symm.trans same,
      (qualified_iff (mapped item member)).mp qualified⟩
  · intro item inside eligible
    rw [decisions]
    refine List.count_eq_one_of_mem (included_nodup cutoff [] _) ?_
    rw [← entity inside]
    exact included_of_qualified (perm.mem_iff.mpr inside)
      ((qualified_iff (mapped item inside)).mpr eligible) List.not_mem_nil
  · intro other same
    have order := ordered_perm sorted same
    rw [← done, authorize, authorize, order]
    simp only [manifest, order]

theorem ordered_nodup (evidence : List MembershipEvidence) :
    ((ordered evidence).map fun item => strip item.candidateId).Nodup ↔
      (evidence.map fun item => strip item.candidateId).Nodup := by
  have perm : (ordered evidence).Perm evidence := List.mergeSort_perm _ _
  exact (perm.map fun item => strip item.candidateId).nodup_iff

theorem distinct_of_nodup {evidence : List MembershipEvidence}
    (mapped : ∀ item ∈ evidence, Mapped item)
    (nodup : (evidence.map fun item => strip item.candidateId).Nodup) : Distinct [] (ordered evidence) := by
  have perm : (ordered evidence).Perm evidence := List.mergeSort_perm _ _
  refine ⟨(ordered_nodup evidence).mpr nodup, fun item inside => ?_⟩
  exact ⟨(mapped item (perm.mem_iff.mp inside)).candidate, List.not_mem_nil⟩

theorem separate_of_nodup {cutoff : Moment} {verify : Option (String → String → Bool)}
    {entries : List Entry} {evidence : List MembershipEvidence}
    (times : entries.Pairwise fun a b => a.snapshot.candidateId = b.snapshot.candidateId →
      a.snapshot.knownAt < b.snapshot.knownAt)
    (answer : Answer cutoff verify entries evidence)
    (distinct : (evidence.map fun item => strip item.candidateId).Nodup) : Separate cutoff entries := by
  intro a ha b hb seen seen' blanks
  obtain ⟨first, newest, named⟩ := newest_of_visible times ha seen
  obtain ⟨second, newest', named'⟩ := newest_of_visible times hb seen'
  have inside : first.evidence verify ∈ evidence :=
    (answer.exact_ (first.evidence verify)).mpr ⟨first, newest, rfl⟩
  have inside' : second.evidence verify ∈ evidence :=
    (answer.exact_ (second.evidence verify)).mpr ⟨second, newest', rfl⟩
  have same : strip first.snapshot.candidateId = strip second.snapshot.candidateId := by
    rw [named, named', blanks]
  have items : first.evidence verify = second.evidence verify :=
    List.inj_on_of_nodup_map distinct inside inside' same
  have ids : first.snapshot.candidateId = second.snapshot.candidateId :=
    congrArg MembershipEvidence.candidateId items
  exact named.symm.trans (ids.trans named')

theorem nodup_of_separate {cutoff : Moment} {verify : Option (String → String → Bool)}
    {entries : List Entry} {evidence : List MembershipEvidence}
    (answer : Answer cutoff verify entries evidence) (separate : Separate cutoff entries) :
    (evidence.map fun item => strip item.candidateId).Nodup := by
  refine List.pairwise_map.mpr (answer.sorted.imp_of_mem ?_)
  intro a b ha hb less same
  obtain ⟨first, newest, one⟩ := (answer.exact_ a).mp ha
  obtain ⟨second, newest', two⟩ := (answer.exact_ b).mp hb
  have ids : a.candidateId = first.snapshot.candidateId := congrArg MembershipEvidence.candidateId one
  have ids' : b.candidateId = second.snapshot.candidateId := congrArg MembershipEvidence.candidateId two
  rw [ids, ids'] at less same
  exact ne_of_lt less
    (separate first newest.inside second newest'.inside newest.visible newest'.visible same)

theorem Answer.mapped {repository : String} {history : ImmutableMembershipHistory}
    {entries : List Entry} {cutoff : Moment} {verify : Option (String → String → Bool)}
    {evidence : List MembershipEvidence} (recorded : Recorded repository history entries)
    (answer : Answer cutoff verify entries evidence) : ∀ item ∈ evidence, Mapped item := by
  intro item inside
  obtain ⟨entry, newest, made⟩ := (answer.exact_ item).mp inside
  rw [made]
  exact (recorded.admitted entry newest.inside).mapped verify

/-- The authorization of what a read of the history gives goes through, and decides every
candidate and includes every entity with an eligible one once, exactly where no two visible
candidates differ in blanks only. -/
theorem authorize_admitted {repository : String} {history : ImmutableMembershipHistory}
    {calls : List Call} (run : Run Step ⟨repository, []⟩ calls history) {cutoff : Moment}
    {verify : Option (String → String → Bool)} {evidence : List MembershipEvidence}
    (read : history.asOf cutoff verify (some (anchorOf repository (accepted calls))) = .ok evidence)
    {parameters : RunParameters} (valid : checkParameters parameters = .ok ()) :
    (∃ result, authorize evidence cutoff parameters = .ok result ∧
      Authorized cutoff parameters evidence result) ↔ Separate cutoff (accepted calls) := by
  have recorded := run_recorded run
  have answered := asOf_recorded recorded cutoff verify
  rw [read] at answered
  obtain ⟨found, same, answer⟩ := answered
  rw [← Except.ok.inj same] at answer
  have mapped := answer.mapped recorded
  constructor
  · intro ⟨result, done, _⟩
    exact separate_of_nodup (entries_ordered recorded.rows recorded.chain.ordered) answer
      ((ordered_nodup evidence).mp (authorize_ok done).1.1)
  · intro separate
    obtain ⟨result, done⟩ := authorize_of_distinct valid
      (distinct_of_nodup mapped (nodup_of_separate answer separate))
    exact ⟨result, done, authorized_of_ok answer.sorted mapped done⟩

def sampleParameters : RunParameters :=
  ⟨"run-1", "run-0", "policy-1", 50, "output/run-1", "output/run-0"⟩

theorem authorize_admitted_sample : ∃ evidence result,
    sampleHistory.asOf sampleMoment sampleIngress.verifyEvidence
      (some (anchorOf "repository" (accepted [sampleCall]))) = .ok evidence ∧
    authorize evidence sampleMoment sampleParameters = .ok result ∧
      Authorized sampleMoment sampleParameters evidence result := by
  obtain ⟨evidence, read, -⟩ := asOf_recorded (run_recorded sample_run) sampleMoment
    sampleIngress.verifyEvidence
  have separate : Separate sampleMoment (accepted [sampleCall]) := by
    intro a ha b hb _ _ _
    rw [List.mem_singleton.mp ha, List.mem_singleton.mp hb]
  have valid : checkParameters sampleParameters = .ok () := by decide
  obtain ⟨result, done, authorized⟩ := (authorize_admitted sample_run read valid).mpr separate
  exact ⟨evidence, result, read, done, authorized⟩

/-- A history of two accepted snapshots whose candidates differ in a blank is not authorized. -/
theorem padded_candidate_stops : ¬∀ (repository : String) (history : ImmutableMembershipHistory)
    (calls : List Call), Run Step ⟨repository, []⟩ calls history →
    ∀ (cutoff : Moment) (verify : Option (String → String → Bool)) (evidence : List MembershipEvidence),
      history.asOf cutoff verify (some (anchorOf repository (accepted calls))) = .ok evidence →
    ∀ parameters, checkParameters parameters = .ok () →
      ∃ result, authorize evidence cutoff parameters = .ok result := by
  intro claim
  have recorded := run_recorded padded_run
  obtain ⟨evidence, read, answer⟩ := asOf_recorded recorded sampleMoment sampleIngress.verifyEvidence
  obtain ⟨result, done⟩ := claim _ _ _ padded_run _ _ _ read sampleParameters (by decide)
  have separate : Separate sampleMoment (accepted [sampleCall, paddedCall]) :=
    separate_of_nodup (entries_ordered recorded.rows recorded.chain.ordered) answer
      ((ordered_nodup evidence).mp (authorize_ok done).1.1)
  have inside : ∀ call ∈ [sampleCall, paddedCall], ∀ entry, call.entry? = some entry →
      entry ∈ accepted [sampleCall, paddedCall] :=
    fun call there entry made => List.mem_filterMap.mpr ⟨call, there, made⟩
  have same := separate _ (inside sampleCall List.mem_cons_self _ rfl) _
    (inside paddedCall (List.mem_cons_of_mem _ List.mem_cons_self) _ rfl)
    ⟨le_refl _, le_refl _⟩ ⟨le_refl _, le_refl _⟩
    (show strip "candidate-1" = strip " candidate-1" by decide)
  exact absurd same (show "candidate-1" ≠ " candidate-1" by decide)

end Hunter.MarketValidation
