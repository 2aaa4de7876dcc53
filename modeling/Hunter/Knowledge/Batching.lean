import Hunter.Knowledge.Ingestion

/-!
What an ingestion leaves in the ledger, and what becomes of it when a batch is cut in
two: by giving the observations in two parts, or by a run that dies in the middle and
is repeated. A fingerprint is mapped by the ledger across batches and by the last tag
within one, so the two ways agree only where the tags do.
-/

namespace Hunter.Knowledge

open IssueAgent

/-- The finding a sighting leaves, classified or not. -/
def Sighting.finding (s : Sighting) (c : Option FindingClassified) : Finding :=
  c.elim (.start s.evidence) (Finding.start s.evidence).classify

theorem verdict_eq {view : KnowledgeView} {a : Intake} {before : List Sighting} {s : Sighting}
    {c : FindingClassified} (h : verdict view a before s = some c) :
    ∃ outcome family, c = classified s.id outcome family := by
  rw [verdict] at h
  split at h
  · split at h
    · cases h
      split
      · exact ⟨_, _, rfl⟩
      · exact ⟨_, _, rfl⟩
    · obtain ⟨family, -, rfl⟩ := Option.map_eq_some_iff.mp h
      exact ⟨_, _, rfl⟩
  · cases h

theorem classified_writable (id : Sha64) (outcome : Outcome) (family : Option FamilyId) :
    (Evidence.findingClassified (classified id outcome family)).Writable :=
  ⟨Nat.zero_le _, List.nodup_nil⟩

section Commits

variable [Ed25519] {trust : TrustRoots} {provenance : ProvenanceCheck} {job : Job}

theorem apply_admits {view next : KnowledgeView} {evidence : Evidence} {key : String}
    (writable : evidence.Writable)
    (named : recordKey (Write.of evidence).kind (Write.of evidence).json = .ok key)
    (h : apply trust provenance view
      (signedRecord trust.repositoryId view job (Write.of evidence) key) = .ok next) :
    ∃ folded record, Admits view evidence folded ∧ folded.append record = next := by
  obtain ⟨record, decoded, -, folded, admits, same⟩ := apply_ok.mp h
  obtain ⟨-, _, _, _, written, -, -, valid, rfl⟩ := (decodeRecord_signed named).mp decoded
  cases valid.symm.trans (evidenceSchemas_json writable _)
  exact ⟨folded, _, admits, same⟩

theorem Commits.append_inv {branch branch' : Branch} {view view' : KnowledgeView}
    {first second : List Write}
    (h : Commits trust provenance job branch view (first ++ second) branch' view') :
    ∃ middle seen, Commits trust provenance job branch view first middle seen ∧
      Commits trust provenance job middle seen second branch' view' := by
  induction first generalizing branch view with
  | nil => exact ⟨branch, view, .nil, h⟩
  | cons write first ih =>
      cases h with
      | cons named untaken applied rest =>
          obtain ⟨middle, seen, one, two⟩ := ih rest
          exact ⟨middle, seen, .cons named untaken applied one, two⟩

theorem Commits.length {branch branch' : Branch} {view view' : KnowledgeView} {writes : List Write}
    (h : Commits trust provenance job branch view writes branch' view') :
    branch'.length = branch.length + writes.length := by
  induction h with
  | nil => rfl
  | cons _ _ _ _ ih =>
      rw [ih, List.length_append, List.length_singleton, List.length_cons]
      omega

/-- A finding that is ingested is the only one that changes. -/
theorem commits_ingested {branch branch' : Branch} {view view' : KnowledgeView}
    {e : FindingIngested} {writes : List Write}
    (h : Commits trust provenance job branch view (Write.of (.findingIngested e) :: writes) branch'
      view') :
    ∃ middle seen, Commits trust provenance job middle seen writes branch' view' ∧
      ∀ id, seen.findings.get? id =
        if id = e.findingId then some (.start e) else view.findings.get? id := by
  cases h with
  | cons named untaken applied rest =>
      obtain ⟨folded, record, admits, rfl⟩ := @apply_admits _ trust provenance job view _
        (.findingIngested e) _ trivial named applied
      refine ⟨_, _, rest, fun id => ?_⟩
      cases admits with
      | finding leaves =>
          cases leaves with
          | ingest source identity print =>
              rw [KnowledgeView.append_findings, KnowledgeView.get?_setFinding]

theorem commits_sighting {branch branch' : Branch} {view view' : KnowledgeView} {s : Sighting}
    {c : Option FindingClassified}
    (about : ∀ x, c = some x → ∃ outcome family, x = classified s.id outcome family)
    (h : Commits trust provenance job branch view ((s.evidences c).map Write.of) branch' view')
    (id : Sha64) : view'.findings.get? id =
      if id = s.id then some (s.finding c) else view.findings.get? id := by
  obtain ⟨middle, seen, rest, started⟩ := commits_ingested h
  cases c with
  | none =>
      cases rest
      exact started id
  | some c =>
      obtain ⟨outcome, family, rfl⟩ := about c rfl
      cases rest with
      | cons named untaken applied rest =>
          cases rest
          obtain ⟨folded, record, admits, rfl⟩ := apply_admits (classified_writable _ _ _) named applied
          cases admits with
          | finding leaves =>
              cases leaves with
              | classify _ item found family candidate basis =>
                  have here : seen.findings.get? s.id = some (.start s.evidence) :=
                    (started s.id).trans (if_pos rfl)
                  cases here.symm.trans found
                  rw [KnowledgeView.append_findings, KnowledgeView.get?_setFinding]
                  by_cases same : id = s.id
                  · rw [if_pos same]
                    exact if_pos same
                  · rw [if_neg same]
                    exact (if_neg same).trans ((started id).trans (if_neg same))

/-- What the new sightings of a batch leave: each its finding, and nothing else. -/
theorem commits_sightings {branch branch' : Branch} {seen view view' : KnowledgeView} {a : Intake}
    {before sightings : List Sighting} (distinct : (sightings.map Sighting.id).Nodup)
    (h : Commits trust provenance job branch view
      ((evidences seen a before sightings).map Write.of) branch' view') :
    (∀ first s second, sightings = first ++ s :: second → view'.findings.get? s.id =
      some (s.finding (verdict seen a (before ++ first) s))) ∧
    ∀ id, id ∉ sightings.map Sighting.id → view'.findings.get? id = view.findings.get? id := by
  induction sightings generalizing branch view before with
  | nil =>
      cases h
      exact ⟨fun first s second same => by simp at same, fun _ _ => rfl⟩
  | cons s sightings ih =>
      rw [evidences, List.map_append] at h
      obtain ⟨middle, mid, one, rest⟩ := h.append_inv
      have here := commits_sighting (fun x same => verdict_eq same) one
      obtain ⟨fresh, distinct⟩ := List.nodup_cons.mp distinct
      obtain ⟨found, others⟩ := ih distinct rest
      constructor
      · intro first t second same
        cases first with
        | nil =>
            obtain ⟨rfl, rfl⟩ := List.cons.inj same
            rw [others s.id fresh, here, if_pos rfl, List.append_nil]
        | cons x first =>
            obtain ⟨rfl, tail⟩ := List.cons.inj same
            have last := found first t second tail
            rwa [List.append_assoc] at last
      · intro id absent
        obtain ⟨other, absent⟩ := not_or.mp (mt List.mem_cons.mpr absent)
        rw [others id absent, here, if_neg other]

end Commits

/-- The finding an evidence is about. -/
def Evidence.subject : Evidence → Option Sha64
  | .findingIngested e => some e.findingId
  | .findingClassified e => some e.findingId
  | .historicalEvidenceAssessed e => some e.findingId
  | .familyCandidate _ => none
  | .remediationRequested e => some e.findingId
  | .findingProven e => some e.findingId
  | .threadResolved e => some e.findingId
  | .recurrence e => some e.findingId

/-- A key that is taken is that of an evidence about a finding of the view. -/
def Backed (view : KnowledgeView) : Prop :=
  ∀ kind key, view.Taken kind key → ∃ evidence : Evidence, evidence.kind = kind ∧
    evidence.key = key ∧ ∀ id ∈ evidence.subject, (view.findings.get? id).isSome

namespace Extends

variable {view view' : KnowledgeView} {record : Record}

theorem keeps (h : Extends view record view') {id : Sha64} (present : (view.findings.get? id).isSome) :
    (view'.findings.get? id).isSome := by
  obtain ⟨folded, admits, rfl⟩ := h.folds
  rw [KnowledgeView.append_findings]
  generalize record.evidence = evidence at admits
  cases admits with
  | candidate _ _ _ => exact present
  | recur _ _ _ _ _ => exact present
  | finding leaves =>
      rw [KnowledgeView.get?_setFinding]
      split
      · rfl
      · exact present

theorem subject (h : Extends view record view') {id : Sha64} (about : id ∈ record.evidence.subject) :
    (view'.findings.get? id).isSome := by
  have keeps := @keeps view view' record h
  obtain ⟨folded, admits, rfl⟩ := h.folds
  generalize record.evidence = evidence at admits about
  cases admits with
  | candidate _ _ _ => cases about
  | recur e item found _ _ =>
      cases about
      exact keeps (Option.isSome_of_eq_some found)
  | finding leaves =>
      rw [KnowledgeView.append_findings, KnowledgeView.get?_setFinding]
      cases leaves <;> cases about <;> exact if_pos rfl ▸ rfl

theorem backed (h : Extends view record view') (backed : Backed view) : Backed view' := by
  intro kind key taken
  rw [KnowledgeView.Taken, h.keys, Dict.get?_set] at taken
  split at taken
  · rename_i same
    have slot := Prod.mk.inj same
    exact ⟨record.evidence, slot.1.symm, Regex.Matching.ext (h.key ▸ slot.2.symm), fun id about =>
      h.subject about⟩
  · obtain ⟨evidence, same_kind, same_key, present⟩ := backed kind key taken
    exact ⟨evidence, same_kind, same_key, fun id about => h.keeps (present id about)⟩

end Extends

theorem Run.backed {repositoryId : Int} {records : List Record} {view : KnowledgeView}
    (h : Run Extends (.empty repositoryId) records view) : Backed view := by
  refine h.preserves Backed (fun _ _ _ before step => step.backed before) ?_
  intro kind key taken
  cases taken

/-- No other finding of the view or the batch has the classification key of a new one. -/
def Apart (view : KnowledgeView) (sightings : List Sighting) : Prop :=
  ∀ s ∈ sightings, ∀ id basis,
    (id ∈ sightings.map Sighting.id ∨ (view.findings.get? id).isSome) →
      classificationKey s.id .deterministic = classificationKey id basis → id = s.id

theorem Apart.left {view : KnowledgeView} {first second : List Sighting}
    (h : Apart view (first ++ second)) : Apart view first := by
  intro s member id basis known
  refine h s (List.mem_append_left _ member) id basis (known.imp_left fun present => ?_)
  rw [List.map_append]
  exact List.mem_append_left _ present

/-- The findings of a view are those of another one and those that were sighted. -/
def Saw (view : KnowledgeView) (sightings : List Sighting) (view' : KnowledgeView) : Prop :=
  (fun id => (view'.findings.get? id).isSome) =
    fun id => (view.findings.get? id).isSome || sightings.any fun s => id == s.id

theorem Saw.apart {view view' : KnowledgeView} {done rest : List Sighting}
    (h : Saw view done view') (apart : Apart view (done ++ rest)) : Apart view' rest := by
  intro s member id basis known
  refine apart s (List.mem_append_right _ member) id basis ?_
  rw [List.map_append, List.mem_append]
  cases known with
  | inl later => exact .inl (.inr later)
  | inr present =>
      have seen := congrFun h id
      rw [present, eq_comm, Bool.or_eq_true] at seen
      cases seen with
      | inl before => exact .inr before
      | inr named =>
          obtain ⟨t, one, same⟩ := List.any_eq_true.mp named
          exact .inl (.inl (List.mem_map.mpr ⟨t, one, (eq_of_beq same).symm⟩))

/-- What was sighted before is not new in the view that knows it. -/
theorem Saw.newSightings {view view' : KnowledgeView} {a : Intake} {observations : List Observation}
    {done rest : List Sighting} (h : Saw view done view')
    (parts : newSightings view a observations = done ++ rest) :
    Knowledge.newSightings view' a observations = rest := by
  rw [Knowledge.newSightings, h]
  exact firstSightings_seen parts

/-- The slots of a sighting: the finding and its deterministic classification. -/
def Free (slots : Slots) (s : Sighting) : Prop :=
  slots (.findingIngested, s.id.val) = none ∧
    slots (.findingClassified, (classificationKey s.id .deterministic).val) = none

theorem free_of_backed {view : KnowledgeView} {sightings : List Sighting} (backed : Backed view)
    (apart : Apart view sightings) {s : Sighting} (member : s ∈ sightings)
    (fresh : (view.findings.get? s.id).isSome = false) : Free view.keys.get? s := by
  constructor
  · refine Option.eq_none_iff_forall_ne_some.mpr fun digest taken => ?_
    obtain ⟨evidence, kind, key, present⟩ :=
      backed .findingIngested s.id (Option.isSome_of_eq_some taken)
    cases evidence with
    | findingIngested e =>
        have found := present e.findingId rfl
        have same : e.findingId = s.id := key
        rw [same, fresh] at found
        cases found
    | _ => cases kind
  · refine Option.eq_none_iff_forall_ne_some.mpr fun digest taken => ?_
    obtain ⟨evidence, kind, key, present⟩ :=
      backed .findingClassified _ (Option.isSome_of_eq_some taken)
    cases evidence with
    | findingClassified e =>
        have found := present e.findingId rfl
        have same := apart s member e.findingId e.basis (.inr found) key.symm
        rw [same, fresh] at found
        cases found
    | _ => cases kind

theorem pendingWrites_new {slots : Slots} {evidence : Evidence} {writes : List Write}
    (writable : evidence.Writable) (untaken : slots (evidence.kind, evidence.key.val) = none) :
    pendingWrites slots (Write.of evidence :: writes) = Write.of evidence ::
      pendingWrites (slots.put (evidence.kind, evidence.key.val) (Write.of evidence).json) writes := by
  rw [pendingWrites, named_of writable]
  have free : ¬(slots ((Write.of evidence).kind, evidence.key.val)).isSome = true := by
    rw [show (Write.of evidence).kind = evidence.kind from rfl, untaken]
    exact Bool.false_ne_true
  exact if_neg free

/-- Everything that the new sightings give is still to be written. -/
theorem pendingWrites_evidences {slots : Slots} {view : KnowledgeView} {a : Intake}
    {before sightings : List Sighting} (distinct : (sightings.map Sighting.id).Nodup)
    (apart : Apart view sightings) (free : ∀ s ∈ sightings, Free slots s) :
    pendingWrites slots ((evidences view a before sightings).map Write.of) =
      (evidences view a before sightings).map Write.of := by
  induction sightings generalizing slots before with
  | nil => rfl
  | cons s sightings ih =>
      obtain ⟨⟨ingested, classification⟩, others⟩ := List.forall_mem_cons.mp free
      obtain ⟨fresh, distinct⟩ := List.nodup_cons.mp distinct
      have apart_rest : Apart view sightings := fun t member id basis known =>
        apart t (List.mem_cons_of_mem _ member) id basis
          (known.imp_left fun present => List.mem_cons_of_mem _ present)
      have other (t : Sighting) (member : t ∈ sightings) : t.id ≠ s.id :=
        fun same => fresh (same ▸ List.mem_map_of_mem member)
      have later (t : Sighting) (member : t ∈ sightings) :
          classificationKey t.id .deterministic ≠ classificationKey s.id .deterministic :=
        fun same => other t member (apart t (List.mem_cons_of_mem _ member) s.id _
          (.inl List.mem_cons_self) same).symm
      have started (t : Sighting) (member : t ∈ sightings) : Free (slots.put
          (.findingIngested, s.id.val) (Write.of (.findingIngested s.evidence)).json) t := by
        have free := others t member
        constructor
        · rw [Slots.put, Function.update_of_ne, free.1]
          exact fun same => other t member (Regex.Matching.ext (Prod.mk.inj same).2)
        · rw [Slots.put, Function.update_of_ne, free.2]
          exact fun same => by cases (Prod.mk.inj same).1
      have start (writes : List Write) := @pendingWrites_new slots (.findingIngested s.evidence) writes
        trivial ingested
      rw [evidences]
      cases verdicts : verdict view a before s with
      | none =>
          exact (start _).trans (congrArg _ (ih distinct apart_rest started))
      | some c =>
          obtain ⟨outcome, family, rfl⟩ := verdict_eq verdicts
          have untaken : slots.put (.findingIngested, s.id.val)
              (Write.of (.findingIngested s.evidence)).json
              (.findingClassified, (classificationKey s.id .deterministic).val) = none := by
            rw [Slots.put, Function.update_of_ne, classification]
            exact fun same => by cases (Prod.mk.inj same).1
          have next (writes : List Write) := @pendingWrites_new _
            (.findingClassified (classified s.id outcome family)) writes
            (classified_writable s.id outcome family) untaken
          refine (start _).trans (congrArg _ ((next _).trans (congrArg _ ?_)))
          refine ih distinct apart_rest fun t member => ?_
          have free := started t member
          constructor
          · rw [Slots.put, Function.update_of_ne, free.1]
            exact fun same => by cases (Prod.mk.inj same).1
          · rw [Slots.put, Function.update_of_ne, free.2]
            exact fun same => later t member (Regex.Matching.ext (Prod.mk.inj same).2)

/-- A view that the new sightings lead to: each has its finding, the others are as before. -/
structure Learns (view : KnowledgeView) (a : Intake) (sightings : List Sighting)
    (view' : KnowledgeView) : Prop where
  fresh : ∀ s ∈ sightings, view.findings.get? s.id = none
  found : ∀ first s second, sightings = first ++ s :: second →
    view'.findings.get? s.id = some (s.finding (verdict view a first s))
  others : ∀ id, id ∉ sightings.map Sighting.id → view'.findings.get? id = view.findings.get? id

/-- What is known of a finding without a remediation. -/
def Finding.learned (item : Finding) : FindingIngested × Option FindingClassified :=
  (item.ingested, item.classifications .deterministic)

/-- The same findings, each with the same deterministic classification. -/
def SameLearning (first second : KnowledgeView) : Prop :=
  ∀ id, (first.findings.get? id).map Finding.learned = (second.findings.get? id).map Finding.learned

theorem verdict_deterministic {view : KnowledgeView} {a : Intake} {before : List Sighting}
    {s : Sighting} : (s.finding (verdict view a before s)).learned =
      (s.evidence, verdict view a before s) ∧
    (s.finding (verdict view a before s)).classification = verdict view a before s := by
  cases same : verdict view a before s with
  | none => exact ⟨rfl, rfl⟩
  | some c =>
      obtain ⟨outcome, family, rfl⟩ := verdict_eq same
      exact ⟨rfl, rfl⟩

theorem finding_ingested {s : Sighting} {c : Option FindingClassified} :
    (s.finding c).ingested = s.evidence := by
  cases c <;> rfl

theorem mem_tagged {a : Intake} {print : Sha64} {sightings : List Sighting} {family : FamilyId} :
    family ∈ a.tagged print sightings ↔ ∃ s ∈ sightings, s.print = print ∧ a.trusts s = true ∧
      s.tag = some family ∧ a.applies s family = true := by
  simp only [Intake.tagged, List.mem_filterMap]
  constructor
  · rintro ⟨s, member, same⟩
    split at same
    · rename_i both
      obtain ⟨tag, applies⟩ := Option.filter_eq_some_iff.mp same
      exact ⟨s, member, both.1, both.2, tag, applies⟩
    · cases same
  · rintro ⟨s, member, print, trusted, tag, applies⟩
    exact ⟨s, member, by simp [print, trusted, tag, Option.filter_some, applies]⟩

theorem Intake.tagged_append (a : Intake) (print : Sha64) (first second : List Sighting) :
    a.tagged print (first ++ second) = a.tagged print first ++ a.tagged print second :=
  List.filterMap_append

namespace Learns

variable {view view' : KnowledgeView} {a : Intake} {sightings : List Sighting}

theorem seen (h : Learns view a sightings view') : Saw view sightings view' := by
  funext id
  by_cases member : id ∈ sightings.map Sighting.id
  · obtain ⟨s, present, rfl⟩ := List.mem_map.mp member
    obtain ⟨first, second, same⟩ := List.append_of_mem present
    have named : (sightings.any fun t => s.id == t.id) = true :=
      List.any_eq_true.mpr ⟨s, present, BEq.rfl⟩
    rw [h.found first s second same, named, Bool.or_true]
    rfl
  · have unnamed : (sightings.any fun t => id == t.id) = false := by
      refine List.any_eq_false.mpr fun t present same => ?_
      exact member (List.mem_map.mpr ⟨t, present, (eq_of_beq same).symm⟩)
    rw [h.others id member, unnamed, Bool.or_false]

/-- A fingerprint is then mapped to what it was mapped to and what it was tagged with. -/
theorem mem_mapped (h : Learns view a sightings view') {print : Sha64} {family : FamilyId} :
    family ∈ view'.mapped print ↔ family ∈ view.mapped print ++ a.tagged print sightings := by
  rw [List.mem_append, Knowledge.mem_mapped]
  constructor
  · rintro ⟨id, item, c, found, printed, classified, matched, named⟩
    by_cases member : id ∈ sightings.map Sighting.id
    · obtain ⟨s, present, rfl⟩ := List.mem_map.mp member
      obtain ⟨first, second, same⟩ := List.append_of_mem present
      cases (h.found first s second same).symm.trans found
      rw [finding_ingested] at printed
      rw [verdict_deterministic.2, verdict] at classified
      split at classified
      · rename_i trusted
        split at classified
        · rename_i tag tagged
          cases classified
          split at matched
          · rename_i applies
            rw [if_pos applies] at named
            cases named
            exact .inr (mem_tagged.mpr ⟨s, present, printed, trusted, tagged, applies⟩)
          · cases matched
        · obtain ⟨chosen, choice, rfl⟩ := Option.map_eq_some_iff.mp classified
          cases named
          rw [Choice.choose, Option.or_eq_some_iff] at choice
          have here : s.print = print := printed
          rw [here] at choice
          cases choice with
          | inl sole => exact .inl ((Choice.sole_eq_some.mp sole family).mpr rfl)
          | inr last =>
              refine .inr ?_
              rw [same, a.tagged_append]
              exact List.mem_append_left _ (List.mem_of_getLast? last.2)
      · cases classified
    · rw [h.others id member] at found
      exact .inl (Knowledge.mem_mapped.mpr ⟨id, item, c, found, printed, classified, matched, named⟩)
  · rintro (before | tagged)
    · obtain ⟨id, item, c, found, rest⟩ := Knowledge.mem_mapped.mp before
      have old : id ∉ sightings.map Sighting.id := by
        intro member
        obtain ⟨s, present, rfl⟩ := List.mem_map.mp member
        rw [h.fresh s present] at found
        cases found
      exact ⟨id, item, c, (h.others id old).trans found, rest⟩
    · obtain ⟨s, present, printed, trusted, tag, applies⟩ := mem_tagged.mp tagged
      obtain ⟨first, second, same⟩ := List.append_of_mem present
      have verdicts : verdict view a first s = some (classified s.id .matched (some family)) := by
        rw [verdict, if_pos trusted, tag]
        simp only [if_pos applies]
      have found := h.found first s second same
      rw [verdicts] at found
      exact ⟨s.id, _, _, found, printed, rfl, rfl, rfl⟩

/-- A sighting after the cut keeps its classification exactly if the tags settle it. -/
theorem verdict_cut (h : Learns view a sightings view') {first : List Sighting} {s : Sighting} :
    verdict view a (sightings ++ first) s = verdict view' a first s ↔
      (a.Plain s → Choice.Settled (view.mapped s.print) (a.tagged s.print sightings)
        (a.tagged s.print first)) := by
  have known : Choice.choose (view'.mapped s.print) (a.tagged s.print first) =
      Choice.choose (view.mapped s.print ++ a.tagged s.print sightings)
        (a.tagged s.print first) := by
    rw [Choice.choose, Choice.choose, Choice.sole_congr fun _ => h.mem_mapped]
  by_cases trusted : a.trusts s = true
  · cases tag : s.tag with
    | some family =>
        have same : verdict view a (sightings ++ first) s = verdict view' a first s := by
          rw [verdict, verdict, tag]
        exact iff_of_true same fun plain => absurd (tag.symm.trans plain.2) (Option.some_ne_none family)
    | none =>
        have injective : Function.Injective
            (Option.map fun family => classified s.id .matched (some family)) :=
          Option.map_injective fun _ _ same =>
            Option.some.inj (congrArg FindingClassified.familyId same)
        rw [verdict, verdict, if_pos trusted, if_pos trusted, tag, a.tagged_append]
        simp only [known]
        rw [injective.eq_iff, Choice.choose_append]
        exact ⟨fun settled _ => settled, fun settled => settled ⟨trusted, tag⟩⟩
  · have same : verdict view a (sightings ++ first) s = verdict view' a first s := by
      rw [verdict, verdict, if_neg trusted, if_neg trusted]
    exact iff_of_true same fun plain => absurd plain.1 trusted

/-- Sightings that are taken in at once or in two parts teach the same exactly if every
plain sighting of the second part is settled. -/
theorem sameLearning_iff {done rest : List Sighting} {once twice : KnowledgeView}
    (whole : Learns view a (done ++ rest) once) (part : Learns view a done view')
    (others : Learns view' a rest twice) :
    SameLearning once twice ↔ ∀ first s second, rest = first ++ s :: second → a.Plain s →
      Choice.Settled (view.mapped s.print) (a.tagged s.print done) (a.tagged s.print first) := by
  constructor
  · intro same first s second parts
    refine part.verdict_cut.mp ?_
    have here := same s.id
    rw [whole.found (done ++ first) s second (by rw [parts, List.append_assoc]),
      others.found first s second parts, Option.map_some, Option.map_some,
      verdict_deterministic.1, verdict_deterministic.1] at here
    exact (Prod.mk.inj (Option.some.inj here)).2
  · intro settled id
    by_cases second : id ∈ rest.map Sighting.id
    · obtain ⟨s, present, rfl⟩ := List.mem_map.mp second
      obtain ⟨first, last, parts⟩ := List.append_of_mem present
      have same := part.verdict_cut.mpr (settled first s last parts)
      rw [whole.found (done ++ first) s last (by rw [parts, List.append_assoc]),
        others.found first s last parts, same]
    · rw [others.others id second]
      by_cases first : id ∈ done.map Sighting.id
      · obtain ⟨s, present, rfl⟩ := List.mem_map.mp first
        obtain ⟨before, last, parts⟩ := List.append_of_mem present
        rw [part.found before s last parts,
          whole.found before s (last ++ rest) (by rw [parts, List.append_assoc]; rfl)]
      · rw [part.others id first, whole.others]
        rw [List.map_append, List.mem_append]
        exact fun either => either.elim first second

end Learns

theorem newSightings_fresh (view : KnowledgeView) (a : Intake) (observations : List Observation) :
    ((newSightings view a observations).map Sighting.id).Nodup ∧
      ∀ s ∈ newSightings view a observations, view.findings.get? s.id = none := by
  obtain ⟨distinct, unseen⟩ := @firstSightings_fresh a.repositoryId
    (fun id => (view.findings.get? id).isSome) observations
  refine ⟨distinct, fun s member => ?_⟩
  exact Option.isNone_iff_eq_none.mp (Option.isSome_eq_false_iff.mp (unseen s member))

section Append

variable [Ed25519] {trust : TrustRoots} {provenance : ProvenanceCheck} {job : Job}
  {view : KnowledgeView} {a : Intake} {observations : List Observation} {branch : Branch}

theorem Learns.of_commits {sightings : List Sighting} {branch' : Branch} {view' : KnowledgeView}
    (distinct : (sightings.map Sighting.id).Nodup)
    (fresh : ∀ s ∈ sightings, view.findings.get? s.id = none)
    (h : Commits trust provenance job branch view
      ((evidences view a [] sightings).map Write.of) branch' view') :
    Learns view a sightings view' := by
  obtain ⟨found, others⟩ := commits_sightings distinct h
  exact ⟨fresh, found, others⟩

/-- An ingestion commits the first of its records, and all of them if it comes to its end. -/
theorem ingestion_commits {writes : List Write} {refusals : List String} {fates : List Fate}
    {branch' : Branch} {outcome : Py (Branch × KnowledgeView × Nat)}
    (seen : read trust provenance branch = .ok view)
    (batch : ingestionWrites view a observations = .ok (writes, refusals))
    (apart : Apart view (newSightings view a observations))
    (run : append trust provenance job writes fates branch = (branch', outcome)) :
    ∃ done view', Commits trust provenance job branch view done branch' view' ∧ done <+: writes ∧
      writes = (evidences view a [] (newSightings view a observations)).map Write.of ∧
      ∀ head view'' n, outcome = .ok (head, view'', n) → view'' = view' ∧ done = writes := by
  obtain ⟨records, -, history⟩ := read_run seen
  have all := ingestionWrites_ok (Run.named history) batch
  obtain ⟨distinct, fresh⟩ := newSightings_fresh view a observations
  have pending : pendingWrites view.keys.get? writes = writes := by
    rw [all]
    refine pendingWrites_evidences distinct apart fun s member => ?_
    exact free_of_backed (Run.backed history) apart member (by rw [fresh s member]; rfl)
  simp only [append, seen] at run
  obtain ⟨done, view', commits, part, ends⟩ := appendWrites_commits run
  rw [pending] at part ends
  refine ⟨done, view', commits, part, all, fun head view'' n ok => ?_⟩
  obtain ⟨same, whole⟩ := ends _ ok
  cases same
  exact ⟨rfl, whole⟩

theorem ingestion_learns {writes : List Write} {refusals : List String} {fates : List Fate}
    {branch' head : Branch} {view' : KnowledgeView} {n : Nat}
    (seen : read trust provenance branch = .ok view)
    (batch : ingestionWrites view a observations = .ok (writes, refusals))
    (apart : Apart view (newSightings view a observations))
    (run : append trust provenance job writes fates branch = (branch', .ok (head, view', n))) :
    Learns view a (newSightings view a observations) view' ∧
      read trust provenance branch' = .ok view' := by
  obtain ⟨done, view'', commits, -, all, ends⟩ := ingestion_commits seen batch apart run
  obtain ⟨rfl, rfl⟩ := ends _ _ _ rfl
  obtain ⟨distinct, fresh⟩ := newSightings_fresh view a observations
  exact ⟨.of_commits distinct fresh (all ▸ commits), commits.read seen⟩

end Append

/-- The fingerprint of a sighting is mapped to two families by the view and the tags before it. -/
def Disputed (view : KnowledgeView) (a : Intake) (before : List Sighting) (s : Sighting) : Prop :=
  ∃ f ∈ view.mapped s.print ++ a.tagged s.print before,
    ∃ g ∈ view.mapped s.print ++ a.tagged s.print before, f ≠ g

/-- A finding has the deterministic outcome `matched`. -/
def Matched (view : KnowledgeView) (id : Sha64) : Prop :=
  ∃ item c, view.findings.get? id = some item ∧ item.classifications .deterministic = some c ∧
    c.outcome = .matched

theorem Learns.matched {view view' : KnowledgeView} {a : Intake} {sightings first second : List Sighting}
    {s : Sighting} (h : Learns view a sightings view') (plain : a.Plain s)
    (parts : sightings = first ++ s :: second) :
    Matched view' s.id ↔
      (Choice.choose (view.mapped s.print) (a.tagged s.print first)).isSome := by
  have found := h.found first s second parts
  have learned := (@verdict_deterministic view a first s).1
  have verdicts : verdict view a first s =
      (Choice.choose (view.mapped s.print) (a.tagged s.print first)).map fun family =>
        classified s.id .matched (some family) := by
    rw [verdict, if_pos plain.1, plain.2]
  have classification := (Prod.mk.inj learned).2
  rw [verdicts] at found classification
  constructor
  · rintro ⟨item, c, present, deterministic, -⟩
    cases found.symm.trans present
    rw [classification] at deterministic
    obtain ⟨family, chosen, -⟩ := Option.map_eq_some_iff.mp deterministic
    exact Option.isSome_of_eq_some chosen
  · intro chosen
    obtain ⟨family, same⟩ := Option.isSome_iff_exists.mp chosen
    rw [same] at found classification
    exact ⟨_, _, found, classification, rfl⟩

/-- What the two schedules have to do: they teach the same, and neither matches a plain
finding whose fingerprint is mapped to two families. -/
def BatchLaw (view : KnowledgeView) (a : Intake) (sightings : List Sighting)
    (once twice : KnowledgeView) : Prop :=
  SameLearning once twice ∧ ∀ before s after, sightings = before ++ s :: after → a.Plain s →
    Disputed view a before s → ¬Matched once s.id ∧ ¬Matched twice s.id

theorem Learns.batchLaw_iff {view view' once twice : KnowledgeView} {a : Intake}
    {done rest : List Sighting} (whole : Learns view a (done ++ rest) once)
    (part : Learns view a done view') (others : Learns view' a rest twice) :
    BatchLaw view a (done ++ rest) once twice ↔ ∀ before s after,
      done ++ rest = before ++ s :: after → a.Plain s →
        Choice.Undisputed (view.mapped s.print) (a.tagged s.print before) := by
  constructor
  · rintro ⟨-, quiet⟩ before s after parts plain
    by_cases silent : a.tagged s.print before = []
    · exact .inl silent
    · refine .inr ?_
      have words : view.mapped s.print ++ a.tagged s.print before ≠ [] :=
        fun none => silent (List.append_eq_nil_iff.mp none).2
      rw [Choice.sole_isSome words]
      by_contra apart
      push Not at apart
      obtain ⟨f, one, g, two, differ⟩ := apart
      refine (quiet before s after parts plain ⟨f, one, g, two, differ⟩).1 ?_
      exact (whole.matched plain parts).mpr (Choice.Undisputed.choose_isSome silent)
  · intro clear
    have same : SameLearning once twice := by
      refine (sameLearning_iff whole part others).mpr fun first s second parts plain => ?_
      have here := clear (done ++ first) s second (by rw [parts, List.append_assoc]) plain
      rw [a.tagged_append] at here
      exact here.settled
    refine ⟨same, fun before s after parts plain disputed => ?_⟩
    obtain ⟨f, one, g, two, differ⟩ := disputed
    have words := List.ne_nil_of_mem one
    have open_ : ¬(Choice.sole (view.mapped s.print ++ a.tagged s.print before)).isSome :=
      fun sole => differ ((Choice.sole_isSome words).mp sole f one g two)
    have silent := (clear before s after parts plain).resolve_right open_
    have once_free : ¬Matched once s.id := by
      rw [whole.matched plain parts, silent, Choice.choose_nil]
      rwa [silent, List.append_nil] at open_
    refine ⟨once_free, fun matched => once_free ?_⟩
    obtain ⟨item, c, present, classification, outcome⟩ := matched
    have learned := same s.id
    rw [present] at learned
    obtain ⟨old, found, fields⟩ := Option.map_eq_some_iff.mp learned
    exact ⟨old, c, found, (Prod.mk.inj fields).2.trans classification, outcome⟩

section Append

variable [Ed25519] {trust : TrustRoots} {provenance : ProvenanceCheck}

/-- Observations that are ingested at once and in two batches obey the law exactly if the
tags before each plain sighting leave its fingerprint undisputed. -/
theorem ingestion_batches {view view₁ once twice : KnowledgeView} {a : Intake}
    {first second : List Observation} {writes writes₁ writes₂ : List Write}
    {refusals refusals₁ refusals₂ : List String} {job job₁ job₂ : Job}
    {fates fates₁ fates₂ : List Fate} {branch whole middle final h h₁ h₂ : Branch} {n n₁ n₂ : Nat}
    {reread : KnowledgeView} (seen : read trust provenance branch = .ok view)
    (apart : Apart view (newSightings view a (first ++ second)))
    (together : ingestionWrites view a (first ++ second) = .ok (writes, refusals))
    (at_once : append trust provenance job writes fates branch = (whole, .ok (h, once, n)))
    (batch₁ : ingestionWrites view a first = .ok (writes₁, refusals₁))
    (part₁ : append trust provenance job₁ writes₁ fates₁ branch = (middle, .ok (h₁, view₁, n₁)))
    (again : read trust provenance middle = .ok reread)
    (batch₂ : ingestionWrites reread a second = .ok (writes₂, refusals₂))
    (part₂ : append trust provenance job₂ writes₂ fates₂ middle = (final, .ok (h₂, twice, n₂))) :
    BatchLaw view a (newSightings view a (first ++ second)) once twice ↔
      ∀ before s after, newSightings view a (first ++ second) = before ++ s :: after →
        a.Plain s → Choice.Undisputed (view.mapped s.print) (a.tagged s.print before) := by
  have parts : newSightings view a (first ++ second) = newSightings view a first ++
      firstSightings a.repositoryId (fun id => (view.findings.get? id).isSome ||
        (newSightings view a first).any fun s => id == s.id) second := firstSightings_append
  obtain ⟨whole, -⟩ := ingestion_learns seen together apart at_once
  rw [parts] at apart whole ⊢
  obtain ⟨part, readable⟩ := ingestion_learns seen batch₁ apart.left part₁
  cases readable.symm.trans again
  have rest : newSightings view₁ a second = firstSightings a.repositoryId
      (fun id => (view.findings.get? id).isSome ||
        (newSightings view a first).any fun s => id == s.id) second := by
    exact congrArg (fun seen => firstSightings a.repositoryId seen second) part.seen
  have apart_rest := part.seen.apart apart
  rw [← rest] at apart_rest whole ⊢
  obtain ⟨others, -⟩ := ingestion_learns again batch₂ apart_rest part₂
  exact whole.batchLaw_iff part others

end Append

section Sample

local instance : Ed25519 := checksumScheme

def sampleObservation (event message : String) : Observation where
  eventId := event
  provider := some "github-review"
  reviewer := sampleLogin.val
  path := some samplePath.val
  line := none
  sourcePr := some 4
  reviewedHeadSha := some sampleControl.val
  reviewedBaseSha := some sampleBase.val
  sourceEventHeadSha := none
  message := message

theorem sample_sight {event message : String} {comment : Positive} {n : Nat} {tag : Option FamilyId}
    (number : comment.val = n) (source : sourceOf event = some (.comment n))
    (claim : normalizedClaim message = .ok sampleClaim.val) (tagged : familyTag message = .ok tag) :
    sight (sampleObservation event message) 1 = .ok ⟨sampleFinding comment, tag⟩ := by
  have authentic : authenticated (sampleObservation event message) = .ok (.comment n) := by
    rw [authenticated, show (sampleObservation event message).eventId = event from rfl, source]
    exact if_pos rfl
  have author : Chars.strip (sampleObservation event message).reviewer.scalars ≠ [] := by
    change Chars.strip sampleLogin.val.scalars ≠ []
    decide
  have path : namedPath (sampleObservation event message) = .ok samplePath.val := rfl
  have fields : observedFinding (sampleObservation event message) 1 samplePath.val sampleClaim.val
      (.comment n) = (sampleFinding comment).fields := by
    simp only [observedFinding, observedProvenance, Source.commentId, ← number]
    rfl
  rw [sight, findingFromObservation, authentic, ok_bind, require_of author, ok_bind, path, ok_bind,
    show (sampleObservation event message).message = message from rfl, claim, ok_bind, fields,
    findingIngested_fields]
  simp [reraise, tagged]

def plainText : String := "The error path is dropped"

def taggedText : String := "[Family:dff-001] The error path is dropped"

def otherText : String := "[family:DFF-002] The error path is dropped"

def sampleIntake : Intake := ⟨1, [sampleLogin.val], fun _ _ => some true⟩

def sampleTagged : Observation := sampleObservation "review-comment-1" taggedText

def sampleDisputing : Observation := sampleObservation "review-comment-2" otherText

def samplePlain : Observation := sampleObservation "review-comment-3" plainText

theorem sample_texts : (normalizedClaim taggedText = .ok sampleClaim.val ∧
      normalizedClaim otherText = .ok sampleClaim.val ∧
      normalizedClaim plainText = .ok sampleClaim.val) ∧
    familyTag taggedText = .ok (some sampleFamily) ∧ familyTag otherText = .ok (some sampleOther) ∧
      familyTag plainText = .ok none := by
  decide +kernel

theorem sample_tagged : sight sampleTagged 1 = .ok ⟨sampleFinding 1, some sampleFamily⟩ :=
  sample_sight (n := 1) rfl rfl sample_texts.1.1 sample_texts.2.1

theorem sample_disputing : sight sampleDisputing 1 = .ok ⟨sampleFinding 2, some sampleOther⟩ :=
  sample_sight (n := 2) rfl rfl sample_texts.1.2.1 sample_texts.2.2.1

theorem sample_plain : sight samplePlain 1 = .ok ⟨sampleFinding 3, none⟩ :=
  sample_sight (n := 3) rfl rfl sample_texts.1.2.2 sample_texts.2.2.2

theorem sample_trusts (s : Sighting) (author : s.evidence.provenance.reviewer = sampleLogin) :
    sampleIntake.trusts s = true := by
  rw [Intake.trusts, author]
  decide

example : isFindingEvent sampleTagged.eventId = true := by
  decide

theorem ingest_new {view : KnowledgeView} {a : Intake} {batch : Batch} {o : Observation}
    {s : Sighting} (event : isFindingEvent o.eventId = true) (sighted : sight o a.repositoryId = .ok s)
    (unknown : view.findings.get? s.id = none) (first : s.id ∉ batch.queued) :
    ingest view a batch o = .ok (batch.take view a s) := by
  rw [ingest, if_pos event, sighted]
  refine if_neg ?_
  rw [unknown]
  exact fun either => either.elim Bool.false_ne_true first

theorem sample_batch : ingestionWrites (.empty 1) sampleIntake [sampleTagged] =
    .ok (sampleWrites, []) := by
  have step := @ingest_new (.empty 1) sampleIntake .empty sampleTagged _ rfl
    sample_tagged rfl (List.not_mem_nil)
  have taken : Batch.empty.take (.empty 1) sampleIntake ⟨sampleFinding 1, some sampleFamily⟩ =
      ⟨sampleWrites, [], .set .empty (sampleFinding 1).fingerprint sampleFamily,
        [(sampleFinding 1).findingId]⟩ := by
    rw [Batch.take, if_pos (sample_trusts _ rfl)]
    rfl
  rw [ingestionWrites, List.foldlM_cons, step, taken]
  rfl

/-- A batch of records of the sample job is appended as a whole. -/
theorem sample_appends {evidences : List Evidence} {branch : Branch} {view view' : KnowledgeView}
    {n : Nat} (run : Run SampleStep view evidences view') :
    ∃ branch', appendWrites sampleTrust sampleProvenance sampleJob (evidences.map Write.of) [] branch
        view n = (branch', .ok (branch', view', n + evidences.length)) ∧
      (read sampleTrust sampleProvenance branch = .ok view →
        read sampleTrust sampleProvenance branch' = .ok view') := by
  induction evidences generalizing branch view n with
  | nil =>
      cases Run.nil_inv run
      exact ⟨branch, rfl, id⟩
  | cons evidence evidences ih =>
      obtain ⟨next, step, rest⟩ := Run.cons_inv run
      obtain ⟨branch', appended, kept⟩ := @ih (branch ++ [sampleNode view evidence]) next (n + 1) rest
      refine ⟨branch', ?_, fun seen => kept ((read_snoc seen view).trans step.applies)⟩
      rw [List.map_cons, List.length_cons, Nat.add_comm evidences.length, ← Nat.add_assoc]
      exact (appendWrites_new (named_of step.writable) step.fresh step.applies).trans appended

theorem SampleStep.slot {view view' : KnowledgeView} {evidence : Evidence}
    (h : SampleStep view evidence view') {slot : Kind × String}
    (other : slot ≠ (evidence.kind, evidence.key.val)) :
    view'.keys.get? slot = view.keys.get? slot := by
  obtain ⟨folded, admits, rfl⟩ := h.admits
  exact (sample_slot admits slot).trans (if_neg other)

def sampleIngest (view : KnowledgeView) (comment : Positive) : KnowledgeView :=
  sampleNext view (.findingIngested (sampleFinding comment))
    (view.setFinding (sampleFinding comment).findingId (.start (sampleFinding comment)))

def sampleClassify (view : KnowledgeView) (comment : Positive) (family : FamilyId) : KnowledgeView :=
  sampleNext view (.findingClassified (sampleMatch (sampleFinding comment).findingId family))
    (view.setFinding (sampleFinding comment).findingId
      ((Finding.start (sampleFinding comment)).classify
        (sampleMatch (sampleFinding comment).findingId family)))

theorem sample_ingest {view : KnowledgeView} {comment : Positive} (home : view.repositoryId = 1)
    (small : Json.weight (.int comment.val) ≤ 100) (number : Json.weight (.int view.nextSeq) ≤ 100)
    (fresh : view.keys.get? (.findingIngested, (sampleFinding comment).findingId.val) = none) :
    SampleStep view (.findingIngested (sampleFinding comment)) (sampleIngest view comment) := by
  have role : Role.reconcile ∈ writerRoles .findingIngested := by decide
  refine ⟨trivial, role, weight_sampleFinding small, home, number, fresh, _,
    .finding (.ingest _ rfl ?_ rfl), rfl⟩
  rw [home]
  rfl

theorem sample_classify {view : KnowledgeView} {comment : Positive} {family : FamilyId}
    (home : view.repositoryId = 1)
    (found : view.findings.get? (sampleFinding comment).findingId =
      some (.start (sampleFinding comment)))
    (number : Json.weight (.int view.nextSeq) ≤ 100)
    (fresh : view.keys.get? (.findingClassified,
      (classificationKey (sampleFinding comment).findingId .deterministic).val) = none) :
    SampleStep view (.findingClassified (sampleMatch (sampleFinding comment).findingId family))
      (sampleClassify view comment family) := by
  have small := weight_classified (sampleMatch (sampleFinding comment).findingId family)
  have role : Role.reconcile ∈ writerRoles .findingClassified := by decide
  exact ⟨sampleMatch_writable _ _, role, Nat.le_trans small (by simp [sampleMatch]), home, number,
    fresh, _, .finding (.classify _ _ found (by simp [sampleMatch]) (by simp [sampleMatch]) rfl), rfl⟩

theorem sample_number {n : Nat} (few : n ≤ 12) : Json.weight (.int n) ≤ 100 := by
  have all : ∀ n ∈ List.range 13, Json.weight (.int (n : Nat)) ≤ 100 := by decide
  exact all n (List.mem_range.mpr (Nat.lt_succ_of_le few))

theorem sample_matches : SampleStep sampleFirst
    (.findingClassified (sampleMatch (sampleFinding 1).findingId sampleFamily)) sampleSecond :=
  sample_classify rfl sample_first_finding (sample_number (by decide)) sample_second_fresh

/-! Three findings of one fingerprint: mapped by the ledger, tagged otherwise and plain. -/

def sampleThird : KnowledgeView := sampleIngest sampleSecond 2

def sampleFourth : KnowledgeView := sampleClassify sampleThird 2 sampleOther

def sampleFifth (view : KnowledgeView) : KnowledgeView := sampleIngest view 3

def sampleSixth (view : KnowledgeView) : KnowledgeView :=
  sampleClassify (sampleFifth view) 3 sampleFamily

theorem sample_digests : [(sampleFinding 1).findingId, (sampleFinding 2).findingId,
      (sampleFinding 3).findingId].Nodup ∧
    [classificationKey (sampleFinding 1).findingId .deterministic,
      classificationKey (sampleFinding 2).findingId .deterministic,
      classificationKey (sampleFinding 3).findingId .deterministic].Nodup ∧
    classificationKey (sampleFinding 1).findingId .deterministic ≠
      classificationKey (sampleFinding 3).findingId .proven ∧
    classificationKey (sampleFinding 3).findingId .deterministic ≠
      classificationKey (sampleFinding 1).findingId .proven := by
  decide +kernel

example : (sampleFinding 1).fingerprint = (sampleFinding 3).fingerprint := by
  decide +kernel

theorem slot_ne {kind : Kind} {a b : Sha64} (h : a ≠ b) : (kind, a.val) ≠ (kind, b.val) :=
  fun same => h (Regex.Matching.ext (Prod.mk.inj same).2)

theorem classified_ne_ingested (a b : String) :
    (Kind.findingClassified, a) ≠ (Kind.findingIngested, b) :=
  fun same => nomatch (Prod.mk.inj same).1

/-- The slots of a comment are free. -/
def FreeAt (view : KnowledgeView) (comment : Positive) : Prop :=
  view.keys.get? (.findingIngested, (sampleFinding comment).findingId.val) = none ∧
    view.keys.get? (.findingClassified,
      (classificationKey (sampleFinding comment).findingId .deterministic).val) = none

theorem FreeAt.after {view view' : KnowledgeView} {comment other : Positive}
    (free : FreeAt view comment)
    (ids : (sampleFinding comment).findingId ≠ (sampleFinding other).findingId)
    (keys : classificationKey (sampleFinding comment).findingId .deterministic ≠
      classificationKey (sampleFinding other).findingId .deterministic) :
    (SampleStep view (.findingIngested (sampleFinding other)) view' → FreeAt view' comment) ∧
      ∀ family, SampleStep view (.findingClassified
        (sampleMatch (sampleFinding other).findingId family)) view' → FreeAt view' comment := by
  refine ⟨fun step => ⟨?_, ?_⟩, fun family step => ⟨?_, ?_⟩⟩
  · exact (step.slot (slot_ne ids)).trans free.1
  · exact (step.slot (classified_ne_ingested _ _)).trans free.2
  · exact (step.slot (classified_ne_ingested _ _).symm).trans free.1
  · exact (step.slot (slot_ne keys)).trans free.2

theorem sample_found {view : KnowledgeView} {comment : Positive} :
    (sampleIngest view comment).findings.get? (sampleFinding comment).findingId =
      some (.start (sampleFinding comment)) := by
  simp [sampleIngest, sampleNext]

/-- A plain finding is ingested and matched to a family. -/
theorem sample_fifth_sixth {view : KnowledgeView} (home : view.repositoryId = 1)
    (number : view.nextSeq ≤ 10) (free : FreeAt view 3) :
    SampleStep view (.findingIngested (sampleFinding 3)) (sampleFifth view) ∧
      SampleStep (sampleFifth view) (.findingClassified
        (sampleMatch (sampleFinding 3).findingId sampleFamily)) (sampleSixth view) := by
  have room : view.nextSeq + 1 ≤ 12 := Nat.succ_le_succ (Nat.le_succ_of_le number)
  have first : SampleStep view (.findingIngested (sampleFinding 3)) (sampleFifth view) :=
    sample_ingest home (@sample_number 3 (by decide)) (sample_number (Nat.le_of_succ_le room)) free.1
  refine ⟨first, sample_classify home sample_found (sample_number room) ?_⟩
  exact (first.slot (classified_ne_ingested _ _)).trans free.2

theorem sample_other_ids : (sampleFinding 2).findingId ≠ (sampleFinding 1).findingId ∧
    (sampleFinding 3).findingId ≠ (sampleFinding 1).findingId ∧
    (sampleFinding 3).findingId ≠ (sampleFinding 2).findingId := by
  have ids := sample_digests.1
  simp only [List.nodup_cons, List.mem_cons, List.not_mem_nil, or_false, not_or] at ids
  exact ⟨Ne.symm ids.1.1, Ne.symm ids.1.2, Ne.symm ids.2.1⟩

theorem sample_other_keys : classificationKey (sampleFinding 2).findingId .deterministic ≠
      classificationKey (sampleFinding 1).findingId .deterministic ∧
    classificationKey (sampleFinding 3).findingId .deterministic ≠
      classificationKey (sampleFinding 1).findingId .deterministic ∧
    classificationKey (sampleFinding 3).findingId .deterministic ≠
      classificationKey (sampleFinding 2).findingId .deterministic := by
  have keys := sample_digests.2.1
  simp only [List.nodup_cons, List.mem_cons, List.not_mem_nil, or_false, not_or] at keys
  exact ⟨Ne.symm keys.1.1, Ne.symm keys.1.2, Ne.symm keys.2.1⟩

theorem sample_second_free {comment : Positive}
    (ids : (sampleFinding comment).findingId ≠ (sampleFinding 1).findingId)
    (keys : classificationKey (sampleFinding comment).findingId .deterministic ≠
      classificationKey (sampleFinding 1).findingId .deterministic) :
    FreeAt sampleSecond comment := by
  have start : FreeAt (.empty 1) comment := ⟨rfl, rfl⟩
  exact (((start.after ids keys).1 sample_ingests).after ids keys).2 _ sample_matches

theorem sample_third_fourth :
    SampleStep sampleSecond (.findingIngested (sampleFinding 2)) sampleThird ∧
      SampleStep sampleThird (.findingClassified
        (sampleMatch (sampleFinding 2).findingId sampleOther)) sampleFourth := by
  have free := sample_second_free sample_other_ids.1 sample_other_keys.1
  have first : SampleStep sampleSecond (.findingIngested (sampleFinding 2)) sampleThird :=
    sample_ingest rfl (@sample_number 2 (by decide)) (sample_number (by decide)) free.1
  refine ⟨first, sample_classify rfl sample_found (sample_number (by decide)) ?_⟩
  exact (first.slot (classified_ne_ingested _ _)).trans free.2

theorem sample_fourth_free : FreeAt sampleFourth 3 := by
  obtain ⟨third, fourth⟩ := sample_third_fourth
  have free := sample_second_free sample_other_ids.2.1 sample_other_keys.2.1
  have ids := sample_other_ids.2.2
  have keys := sample_other_keys.2.2
  exact (((free.after ids keys).1 third).after ids keys).2 _ fourth

theorem sample_ingest_others {view : KnowledgeView} {comment : Positive} {id : Sha64}
    (other : id ≠ (sampleFinding comment).findingId) :
    (sampleIngest view comment).findings.get? id = view.findings.get? id := by
  simp [sampleIngest, sampleNext, other]

theorem sample_classify_others {view : KnowledgeView} {comment : Positive} {family : FamilyId}
    {id : Sha64} (other : id ≠ (sampleFinding comment).findingId) :
    (sampleClassify view comment family).findings.get? id = view.findings.get? id := by
  simp [sampleClassify, sampleNext, other]

theorem sample_second_unseen {id : Sha64} (other : id ≠ (sampleFinding 1).findingId) :
    sampleSecond.findings.get? id = none :=
  (sample_classify_others other).trans (sample_ingest_others other)

theorem sample_fourth_unseen : sampleFourth.findings.get? (sampleFinding 3).findingId = none := by
  have other := sample_other_ids.2.2
  refine (sample_classify_others other).trans ((sample_ingest_others other).trans ?_)
  exact sample_second_unseen sample_other_ids.2.1

/-- The evidences of a comment that is matched. -/
def sampleMatched (comment : Positive) (family : FamilyId) : List Evidence :=
  [.findingIngested (sampleFinding comment),
    .findingClassified (sampleMatch (sampleFinding comment).findingId family)]

theorem sample_take {view : KnowledgeView} {batch : Batch} {comment : Positive}
    {tag : Option FamilyId} {family : FamilyId}
    (h : outcomeOf view sampleIntake batch.pending ⟨sampleFinding comment, tag⟩ =
      some (.matched, some family)) :
    batch.take view sampleIntake ⟨sampleFinding comment, tag⟩ =
      ⟨batch.writes ++ (sampleMatched comment family).map Write.of, batch.refusals,
        batch.pending.set (sampleFinding comment).fingerprint family,
        batch.queued ++ [(sampleFinding comment).findingId]⟩ := by
  rw [Batch.take, if_pos (sample_trusts _ rfl)]
  simp only [h]
  rw [List.append_assoc]
  rfl

theorem sample_outcome {view : KnowledgeView} {pending : Dict Sha64 FamilyId} {comment : Positive}
    {family : FamilyId} : outcomeOf view sampleIntake pending ⟨sampleFinding comment, some family⟩ =
      some (.matched, some family) := by
  simp [outcomeOf, Intake.applies, sampleIntake]

/-- The plain comment is matched to what its fingerprint is mapped to. -/
theorem sample_plain_batch {view : KnowledgeView} {batch : Batch} {family : FamilyId}
    (unknown : view.findings.get? (sampleFinding 3).findingId = none)
    (first : (sampleFinding 3).findingId ∉ batch.queued)
    (known : (view.matchedFamilyFor (sampleFinding 3).fingerprint).or
      (batch.pending.get? (sampleFinding 3).fingerprint) = some family) :
    ∃ batch', [samplePlain].foldlM (ingest view sampleIntake) batch = .ok batch' ∧
      batch'.writes = batch.writes ++ (sampleMatched 3 family).map Write.of ∧
      batch'.refusals = batch.refusals := by
  have outcome : outcomeOf view sampleIntake batch.pending ⟨sampleFinding 3, none⟩ =
      some (.matched, some family) := by
    simp only [outcomeOf, Sighting.print, known, Option.map_some]
  have step := @ingest_new view sampleIntake batch samplePlain _ rfl sample_plain
    unknown first
  rw [List.foldlM_cons, step, sample_take outcome]
  exact ⟨_, rfl, rfl, rfl⟩

theorem sample_mapped :
    sampleSecond.matchedFamilyFor (sampleFinding 3).fingerprint = some sampleFamily ∧
      sampleFourth.matchedFamilyFor (sampleFinding 3).fingerprint = none := by
  decide +kernel

/-- The ledger maps the fingerprint to one family, the first batch tags it with another,
the second one brings a plain finding. -/
theorem ingestion_batches_fails : ∃ branch whole middle final once view₁ twice writes writes₁ writes₂,
    read sampleTrust sampleProvenance branch = .ok sampleSecond ∧
    ingestionWrites sampleSecond sampleIntake ([sampleDisputing] ++ [samplePlain]) =
      .ok (writes, []) ∧
    append sampleTrust sampleProvenance sampleJob writes [] branch =
      (whole, .ok (whole, once, writes.length)) ∧
    ingestionWrites sampleSecond sampleIntake [sampleDisputing] = .ok (writes₁, []) ∧
    append sampleTrust sampleProvenance sampleJob writes₁ [] branch =
      (middle, .ok (middle, view₁, writes₁.length)) ∧
    read sampleTrust sampleProvenance middle = .ok view₁ ∧
    ingestionWrites view₁ sampleIntake [samplePlain] = .ok (writes₂, []) ∧
    append sampleTrust sampleProvenance sampleJob writes₂ [] middle =
      (final, .ok (final, twice, writes₂.length)) ∧
    ¬SameLearning once twice := by
  obtain ⟨third, fourth⟩ := sample_third_fourth
  obtain ⟨fifth, sixth⟩ := sample_fifth_sixth rfl (by decide) sample_fourth_free
  obtain ⟨branch, -, readable⟩ := @sample_appends _ [] _ _ 0
    ((Run.nil.snoc sample_ingests).snoc sample_matches)
  have seen := readable rfl
  obtain ⟨whole, at_once, -⟩ := @sample_appends _ branch _ _ 0
    ((((Run.nil.snoc third).snoc fourth).snoc fifth).snoc sixth)
  obtain ⟨middle, part, kept⟩ := @sample_appends _ branch _ _ 0 ((Run.nil.snoc third).snoc fourth)
  obtain ⟨final, rest, -⟩ := @sample_appends _ middle _ _ 0 (Run.nil.snoc fifth)
  have disputing : ingest sampleSecond sampleIntake .empty sampleDisputing =
      .ok (Batch.empty.take sampleSecond sampleIntake ⟨sampleFinding 2, some sampleOther⟩) :=
    ingest_new rfl sample_disputing (sample_second_unseen sample_other_ids.1)
      List.not_mem_nil
  have first_batch : ingestionWrites sampleSecond sampleIntake [sampleDisputing] =
      .ok ((sampleMatched 2 sampleOther).map Write.of, []) := by
    rw [ingestionWrites, List.foldlM_cons, disputing, sample_take sample_outcome]
    rfl
  have whole_batch : ingestionWrites sampleSecond sampleIntake ([sampleDisputing] ++ [samplePlain]) =
      .ok ((sampleMatched 2 sampleOther ++ sampleMatched 3 sampleFamily).map Write.of, []) := by
    obtain ⟨batch', looped, written, refused⟩ := @sample_plain_batch sampleSecond
      (Batch.empty.take sampleSecond sampleIntake ⟨sampleFinding 2, some sampleOther⟩) sampleFamily
      (sample_second_unseen sample_other_ids.2.1)
      (by rw [sample_take sample_outcome]; simp [Batch.empty, sample_other_ids.2.2])
      (by rw [sample_mapped.1]; rfl)
    rw [ingestionWrites, List.singleton_append, List.foldlM_cons, disputing, ok_bind, looped, ok_bind,
      written, refused, sample_take sample_outcome, List.map_append]
    rfl
  have second_batch : ingestionWrites sampleFourth sampleIntake [samplePlain] =
      .ok ([Write.of (.findingIngested (sampleFinding 3))], []) := by
    have step := @ingest_new sampleFourth sampleIntake .empty samplePlain _ rfl
      sample_plain sample_fourth_unseen List.not_mem_nil
    have outcome : outcomeOf sampleFourth sampleIntake Batch.empty.pending
        ⟨sampleFinding 3, none⟩ = none := by
      simp only [outcomeOf, Sighting.print, sample_mapped.2, Option.none_or]
      rfl
    rw [ingestionWrites, List.foldlM_cons, step, Batch.take, if_pos (sample_trusts _ rfl)]
    simp only [outcome]
    rfl
  refine ⟨branch, whole, middle, final, sampleSixth sampleFourth, sampleFourth,
    sampleFifth sampleFourth, _, _, _, seen, whole_batch, ?_, first_batch, ?_, kept seen, second_batch, ?_,
    fun same => ?_⟩
  · rw [append, seen]
    exact at_once
  · rw [append, seen]
    exact part
  · rw [append, kept seen]
    exact rest
  · have here := same (sampleFinding 3).findingId
    have learned : (sampleSixth sampleFourth).findings.get? (sampleFinding 3).findingId =
        some ((Finding.start (sampleFinding 3)).classify
          (sampleMatch (sampleFinding 3).findingId sampleFamily)) := by
      simp [sampleSixth, sampleClassify, sampleNext]
    have bare : (sampleFifth sampleFourth).findings.get? (sampleFinding 3).findingId =
        some (.start (sampleFinding 3)) := sample_found
    rw [learned, bare] at here
    cases (Prod.mk.inj (Option.some.inj here)).2

/-! A tagged finding and a plain one of the same fingerprint. -/

def samplePair : List Sighting := [⟨sampleFinding 1, some sampleFamily⟩, ⟨sampleFinding 3, none⟩]

theorem samplePair_split {before after : List Sighting} {s : Sighting}
    (h : samplePair = before ++ s :: after) (plain : sampleIntake.Plain s) :
    before = [⟨sampleFinding 1, some sampleFamily⟩] ∧ s = ⟨sampleFinding 3, none⟩ := by
  match before, h with
  | [], h =>
      cases h
      cases plain.2
  | [x], h =>
      cases h
      exact ⟨rfl, rfl⟩
  | _ :: _ :: before, h =>
      have lengths := congrArg List.length h
      simp [samplePair] at lengths

theorem samplePair_apart : Apart (.empty 1) samplePair := by
  have keys := sample_digests.2.2
  have same := sample_other_keys.2.1
  intro s member id basis known equal
  cases known with
  | inr present => cases present
  | inl here =>
      simp only [samplePair, List.map_cons, List.map_nil, List.mem_cons, List.not_mem_nil,
        or_false] at here member
      cases member with
      | inl first =>
          subst first
          cases here with
          | inl one => exact one
          | inr three =>
              subst three
              cases basis with
              | deterministic => exact absurd equal.symm same
              | proven => exact absurd equal keys.1
      | inr second =>
          subst second
          cases here with
          | inr three => exact three
          | inl one =>
              subst one
              cases basis with
              | deterministic => exact absurd equal same
              | proven => exact absurd equal keys.2

theorem sample_events : isFindingEvent sampleTagged.eventId = true ∧
    isFindingEvent samplePlain.eventId = true :=
  ⟨rfl, rfl⟩

theorem sample_tagged_sighting : sampleTagged.sighting sampleIntake.repositoryId =
    some ⟨sampleFinding 1, some sampleFamily⟩ := by
  rw [Observation.sighting, if_pos sample_events.1, show sampleIntake.repositoryId = 1 from rfl,
    sample_tagged]
  rfl

theorem sample_plain_sighting : samplePlain.sighting sampleIntake.repositoryId =
    some ⟨sampleFinding 3, none⟩ := by
  rw [Observation.sighting, if_pos sample_events.2, show sampleIntake.repositoryId = 1 from rfl,
    sample_plain]
  rfl

theorem sample_first_new : newSightings (.empty 1) sampleIntake [sampleTagged] =
    [⟨sampleFinding 1, some sampleFamily⟩] := by
  rw [newSightings, firstSightings, sample_tagged_sighting]
  rfl

theorem samplePair_new : newSightings (.empty 1) sampleIntake ([sampleTagged] ++ [samplePlain]) =
    samplePair := by
  rw [List.singleton_append, newSightings, firstSightings, sample_tagged_sighting]
  simp only [firstSightings, sample_plain_sighting]
  have fresh : ((((KnowledgeView.empty 1).findings.get? (sampleFinding 3).findingId).isSome ||
      (sampleFinding 3).findingId == (sampleFinding 1).findingId) = true) = False := by
    simp [KnowledgeView.empty, sample_other_ids.2.1]
  simp only [Sighting.id, fresh]
  rfl

theorem sample_mapped_empty (print : Sha64) : (KnowledgeView.empty 1).matchedFamilyFor print = none :=
  rfl

theorem samplePair_batch : ingestionWrites (.empty 1) sampleIntake ([sampleTagged] ++ [samplePlain]) =
    .ok ((sampleMatched 1 sampleFamily ++ sampleMatched 3 sampleFamily).map Write.of, []) := by
  have tagged : ingest (.empty 1) sampleIntake .empty sampleTagged =
      .ok (Batch.empty.take (.empty 1) sampleIntake ⟨sampleFinding 1, some sampleFamily⟩) :=
    ingest_new rfl sample_tagged rfl List.not_mem_nil
  obtain ⟨batch', looped, written, refused⟩ := @sample_plain_batch (.empty 1)
    (Batch.empty.take (.empty 1) sampleIntake ⟨sampleFinding 1, some sampleFamily⟩) sampleFamily rfl
    (by rw [sample_take sample_outcome]; simp [Batch.empty, sample_other_ids.2.1])
    (by
      rw [sample_take sample_outcome, sample_mapped_empty, Option.none_or]
      exact (Dict.get?_set _ _ _ _).trans (if_pos rfl))
  rw [ingestionWrites, List.singleton_append, List.foldlM_cons, tagged, ok_bind, looped, ok_bind,
    written, refused, sample_take sample_outcome, List.map_append]
  rfl

theorem sample_plain_second : ingestionWrites sampleSecond sampleIntake [samplePlain] =
    .ok ((sampleMatched 3 sampleFamily).map Write.of, []) := by
  obtain ⟨batch', looped, written, refused⟩ := @sample_plain_batch sampleSecond .empty sampleFamily
    (sample_second_unseen sample_other_ids.2.1) List.not_mem_nil (by rw [sample_mapped.1]; rfl)
  rw [ingestionWrites, looped, ok_bind, written, refused]
  rfl

/-- Both ways of ingesting the pair come to their end. -/
theorem samplePair_appends : ∃ whole middle final,
    append sampleTrust sampleProvenance sampleJob
        ((sampleMatched 1 sampleFamily ++ sampleMatched 3 sampleFamily).map Write.of) [] [] =
      (whole, .ok (whole, sampleSixth sampleSecond, 4)) ∧
    append sampleTrust sampleProvenance sampleJob sampleWrites [] [] =
      (middle, .ok (middle, sampleSecond, 2)) ∧
    read sampleTrust sampleProvenance middle = .ok sampleSecond ∧
    append sampleTrust sampleProvenance sampleJob ((sampleMatched 3 sampleFamily).map Write.of) []
        middle = (final, .ok (final, sampleSixth sampleSecond, 2)) := by
  obtain ⟨fifth, sixth⟩ := sample_fifth_sixth rfl (by decide)
    (sample_second_free sample_other_ids.2.1 sample_other_keys.2.1)
  have start : read sampleTrust sampleProvenance [] = .ok (.empty 1) := rfl
  obtain ⟨middle, part, kept⟩ := @sample_appends _ [] _ _ 0
    ((Run.nil.snoc sample_ingests).snoc sample_matches)
  obtain ⟨final, rest, -⟩ := @sample_appends _ middle _ _ 0 ((Run.nil.snoc fifth).snoc sixth)
  obtain ⟨whole, at_once, -⟩ := @sample_appends _ [] _ _ 0
    ((((Run.nil.snoc sample_ingests).snoc sample_matches).snoc fifth).snoc sixth)
  refine ⟨whole, middle, final, ?_, ?_, kept start, ?_⟩
  · rw [append, start]
    exact at_once
  · rw [append, start]
    exact part
  · rw [append, kept start]
    exact rest

/-- The tag comes first, so the plain finding is matched to its family either way. -/
theorem ingestion_batches_sample : ∃ once twice,
    BatchLaw (.empty 1) sampleIntake samplePair once twice ∧
      Matched once (sampleFinding 3).findingId ∧ Matched twice (sampleFinding 3).findingId := by
  obtain ⟨whole, middle, final, at_once, part₁, again, part₂⟩ := samplePair_appends
  have law := (ingestion_batches rfl (samplePair_new ▸ samplePair_apart) samplePair_batch at_once
    sample_batch part₁ again sample_plain_second part₂).mpr fun before s after split plain => by
      rw [samplePair_new] at split
      obtain ⟨rfl, rfl⟩ := samplePair_split split plain
      exact .inr (by decide +kernel)
  rw [samplePair_new] at law
  have matched : Matched (sampleSixth sampleSecond) (sampleFinding 3).findingId := by
    refine ⟨(Finding.start (sampleFinding 3)).classify
      (sampleMatch (sampleFinding 3).findingId sampleFamily), _, ?_, rfl, rfl⟩
    simp [sampleSixth, sampleClassify, sampleNext]
  exact ⟨_, _, law, matched, matched⟩

end Sample

end Hunter.Knowledge
