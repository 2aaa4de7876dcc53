import Mathlib
import Hunter.Data.Lineage
import Hunter.Machine.Run
import Hunter.MarketValidation.History

/-!
What a read of the history gives. The rows are those of the accepted snapshots in their
order, chained from the repository, and the times of one candidate advance; so under the
anchor of the last digest a read finds for each candidate the newest snapshot that was
known and ingested by the cutoff, and the signed content of a parsed row is what was
signed.
-/

namespace Hunter.MarketValidation

open Calendar Fallible

/-- A call of `append` and the digest that it returns, if it is accepted. -/
structure Call where
  snapshot : HistoricalMembershipSnapshot
  ingress : Ingress
  now : Moment
  result : Option String

inductive Step (history : ImmutableMembershipHistory) (call : Call) (after : ImmutableMembershipHistory) :
    Prop where
  | accepted {digest : String} :
      history.append call.snapshot call.ingress call.now = .ok (digest, after) →
      call.result = some digest → Step history call after
  | refused {exn : Exn} : history.append call.snapshot call.ingress call.now = .error exn →
      call.result = none → after = history → Step history call after

/-- An accepted snapshot. -/
structure Entry where
  snapshot : HistoricalMembershipSnapshot
  ingress : Ingress
  ingestedAt : Moment
  digest : String

def Call.entry? (call : Call) : Option Entry :=
  call.result.map fun digest => ⟨call.snapshot, call.ingress, call.now, digest⟩

def accepted (calls : List Call) : List Entry := calls.filterMap Call.entry?

namespace Entry

def signedDigest (entry : Entry) : String :=
  evidenceDigest (payload entry.snapshot entry.ingestedAt entry.snapshot.upstreamAttestation)

def attestation (entry : Entry) : String :=
  match entry.ingress.signEvidenceDigest with
  | none => entry.snapshot.upstreamAttestation
  | some sign => sign entry.signedDigest

def members (entry : Entry) : List (String × Json) :=
  payload entry.snapshot entry.ingestedAt entry.attestation

def content (entry : Entry) : String := Json.asciiDumps (.obj entry.members)

def data (entry : Entry) : Json := .obj (Json.canonFields entry.members)

def Visible (cutoff : Moment) (entry : Entry) : Prop :=
  entry.snapshot.knownAt ≤ cutoff ∧ entry.ingestedAt ≤ cutoff

instance decidableVisible (cutoff : Moment) (entry : Entry) : Decidable (Visible cutoff entry) :=
  inferInstanceAs (Decidable (_ ∧ _))

/-- The evidence that a read makes of the snapshot. -/
def evidence (verify : Option (String → String → Bool)) (entry : Entry) : MembershipEvidence where
  candidateId := entry.snapshot.candidateId
  canonicalEntityId := entry.snapshot.canonicalEntityId
  project := entry.snapshot.project
  identityOutcome := entry.snapshot.identityOutcome
  lifecycleStatus := entry.snapshot.lifecycleStatus
  knownAt := .aware entry.snapshot.knownAt
  observedAt := .aware entry.snapshot.observedAt
  sourceDigest := entry.snapshot.sourceDigest
  registryReference := "history:" ++ entry.digest
  provenanceVerified := verify.any fun verify => verify entry.attestation entry.signedDigest

end Entry

/-- The visible entry of its candidate with the greatest known time. -/
structure Newest (cutoff : Moment) (entries : List Entry) (entry : Entry) : Prop where
  inside : entry ∈ entries
  visible : entry.Visible cutoff
  greatest : ∀ other ∈ entries, other.snapshot.candidateId = entry.snapshot.candidateId →
    other.Visible cutoff → other = entry ∨ other.snapshot.knownAt < entry.snapshot.knownAt

structure Records (entry : Entry) (row : Row) : Prop where
  candidate : row.candidateId = entry.snapshot.candidateId
  known : row.knownAt = entry.snapshot.knownAt.isoformat
  content : row.content = entry.content
  digest : row.digest = entry.digest
  chained : row.digest = chained row.previousDigest row.content

/-- What the checks of an accepted snapshot leave known of it. -/
structure Admitted (entry : Entry) : Prop where
  checked : ImmutableMembershipHistory.checkSnapshot entry.snapshot entry.ingress entry.ingestedAt = .ok ()
  attested : ImmutableMembershipHistory.attest entry.snapshot entry.ingress entry.ingestedAt =
    .ok entry.attestation

def Advances (a b : Row) : Prop := a.candidateId = b.candidateId → a.knownAt < b.knownAt

abbrev Chain (repository : String) : List Row → Prop :=
  Lineage.Line Row.digest (fun row => some row.previousDigest) Row.sequence Advances
    (some (genesis repository)) 1

structure Recorded (repository : String) (history : ImmutableMembershipHistory) (entries : List Entry) :
    Prop where
  origin : history.repository = repository
  rows : List.Forall₂ Records entries history.rows
  chain : Chain repository history.rows
  admitted : ∀ entry ∈ entries, Admitted entry

theorem tip_lastDigest (history : ImmutableMembershipHistory) :
    Lineage.tip Row.digest (some (genesis history.repository)) history.rows =
      some history.lastDigest := by
  rw [Lineage.tip, ImmutableMembershipHistory.lastDigest]
  cases history.rows.getLast? with
  | none => rfl
  | some row => rfl

theorem attest_ok (digest : String) {snapshot : HistoricalMembershipSnapshot} {ingress : Ingress}
    {now : Moment} {attestation : String}
    (done : ImmutableMembershipHistory.attest snapshot ingress now = .ok attestation) :
    attestation = Entry.attestation ⟨snapshot, ingress, now, digest⟩ := by
  unfold ImmutableMembershipHistory.attest at done
  unfold Entry.attestation
  split at done
  · rename_i unsigned
    cases done
    rw [unsigned]
  · rename_i sign signed
    dsimp only at done
    split_ifs at done
    cases done
    rw [signed]
    rfl

theorem sequence_next {repository : String} {rows : List Row} (chain : Chain repository rows) :
    (rows.getLast?.map Row.sequence).getD 0 + 1 = 1 + rows.length := by
  rcases List.eq_nil_or_concat rows with rfl | ⟨front, last, rfl⟩
  · rfl
  · rw [List.concat_eq_append] at chain ⊢
    obtain ⟨-, -, number, -⟩ := Lineage.Line.snoc.mp chain
    rw [List.getLast?_concat, Option.map_some, Option.getD_some, number, List.length_append,
      List.length_singleton]
    omega

theorem checkAdvance_ok {repository candidateId known : String} {history : ImmutableMembershipHistory}
    (chain : Chain repository history.rows) (done : history.checkAdvance candidateId known = .ok ()) :
    ∀ row ∈ history.rows, row.candidateId = candidateId → row.knownAt < known := by
  intro row inside same
  have chosen : row ∈ history.rows.filter fun row => row.candidateId = candidateId :=
    List.mem_filter.mpr ⟨inside, decide_eq_true same⟩
  unfold ImmutableMembershipHistory.checkAdvance at done
  split at done
  · rename_i empty
    rw [List.getLast?_eq_none_iff.mp empty] at chosen
    exact absurd chosen List.not_mem_nil
  · rename_i previous found
    have later := require_ok.mp done
    obtain ⟨front, split⟩ := List.getLast?_eq_some_iff.mp found
    have ordered : (history.rows.filter fun row => row.candidateId = candidateId).Pairwise Advances :=
      chain.ordered.filter _
    rw [split] at ordered chosen
    rcases List.mem_append.mp chosen with before | last
    · have mine : previous.candidateId = candidateId :=
        of_decide_eq_true (List.mem_filter.mp (List.mem_of_getLast? found)).2
      have step := (List.pairwise_append.mp ordered).2.2 row before previous
        (List.mem_singleton_self previous)
      exact (step (same.trans mine.symm)).trans later
    · exact List.mem_singleton.mp last ▸ later

theorem append_ok {repository digest : String} {history after : ImmutableMembershipHistory}
    {entries : List Entry} {snapshot : HistoricalMembershipSnapshot} {ingress : Ingress} {now : Moment}
    (recorded : Recorded repository history entries)
    (done : history.append snapshot ingress now = .ok (digest, after)) :
    Recorded repository after (entries ++ [⟨snapshot, ingress, now, digest⟩]) := by
  obtain ⟨checked, done⟩ := check_ok.mp done
  obtain ⟨-, done⟩ := check_ok.mp done
  obtain ⟨attestation, attested, done⟩ := bind_ok.mp done
  obtain ⟨advanced, done⟩ := check_ok.mp done
  obtain ⟨-, done⟩ := require_bind_ok.mp done
  have same := attest_ok digest attested
  obtain ⟨rfl, rfl⟩ := Prod.mk.inj (Except.ok.inj done)
  constructor
  · exact recorded.origin
  · refine List.rel_append recorded.rows (.cons ⟨rfl, rfl, ?_, rfl, rfl⟩ .nil)
    rw [Entry.content, Entry.members, ← same]
  · refine Lineage.Line.snoc.mpr ⟨recorded.chain, ?_, sequence_next recorded.chain, ?_⟩
    · rw [← recorded.origin, tip_lastDigest]
    · exact fun row inside => checkAdvance_ok recorded.chain advanced row inside
  · intro entry inside
    rcases List.mem_append.mp inside with old | new
    · exact recorded.admitted entry old
    · rw [List.mem_singleton.mp new]
      exact ⟨checked, same ▸ attested⟩

theorem step_recorded {repository : String} {history after : ImmutableMembershipHistory}
    {calls : List Call} {call : Call} (recorded : Recorded repository history (accepted calls))
    (step : Step history call after) : Recorded repository after (accepted (calls ++ [call])) := by
  rw [accepted, List.filterMap_append]
  cases step with
  | @accepted digest done result =>
      have entry : [call].filterMap Call.entry? =
          [⟨call.snapshot, call.ingress, call.now, digest⟩] := by
        simp [Call.entry?, result]
      rw [entry]
      exact append_ok recorded done
  | refused _ result same =>
      have none : [call].filterMap Call.entry? = [] := by simp [Call.entry?, result]
      rw [none, List.append_nil, same]
      exact recorded

theorem run_recorded {repository : String} {history : ImmutableMembershipHistory} {calls : List Call}
    (run : Run Step ⟨repository, []⟩ calls history) : Recorded repository history (accepted calls) := by
  refine run.invariant (fun calls history => Recorded repository history (accepted calls)) ?_ ?_
  · exact ⟨rfl, .nil, Lineage.Line.nil, fun _ inside => absurd inside List.not_mem_nil⟩
  · exact fun _ _ _ _ _ recorded step => step_recorded recorded step

theorem get?_data (entry : Entry) (name : String) :
    entry.data.get? name = (Json.lookup name entry.members).map Json.canon :=
  Json.lookup_canonFields name entry.members

theorem textMember_data {entry : Entry} {name : String} (value : String)
    (found : Json.lookup name entry.members = some (.str value)) :
    textMember entry.data name = .ok value := by
  rw [textMember, member, get?_data, found]
  rfl

theorem loadContent_content (entry : Entry) : loadContent entry.content = .ok entry.data := by
  rw [loadContent, Entry.content, Json.loads_asciiDumps]
  rfl

theorem visible_data (entry : Entry) (cutoff : Moment) :
    visible cutoff.isoformat entry.data = .ok (decide (entry.Visible cutoff)) := by
  rw [visible, textMember_data entry.snapshot.knownAt.isoformat rfl, ok_bind,
    textMember_data entry.ingestedAt.isoformat rfl, ok_bind]
  refine congrArg Except.ok ?_
  rw [Bool.eq_iff_iff, decide_eq_true_iff, Entry.Visible]
  simp only [isoformat_le_iff, Bool.and_eq_true, decide_eq_true_eq]

theorem readRow_records {entry : Entry} {row : Row} (records : Records entry row) (cutoff : Moment)
    (latest : Latest) : readRow cutoff.isoformat (row.previousDigest, latest) row =
      .ok (entry.digest, note latest entry.snapshot.candidateId entry.digest entry.data
        (entry.Visible cutoff)) := by
  have chain : chained row.previousDigest row.content = entry.digest :=
    records.chained.symm.trans records.digest
  rw [readRow]
  simp only [chain]
  rw [require_of ⟨trivial, records.digest⟩, ok_bind, records.content, loadContent_content, ok_bind,
    textMember_data entry.snapshot.candidateId rfl, ok_bind,
    textMember_data entry.snapshot.knownAt.isoformat rfl, ok_bind,
    require_of ⟨records.candidate.symm, records.known.symm⟩, ok_bind, visible_data, ok_bind]

/-- What a read holds of each candidate after the entries. -/
def noted (cutoff : Moment) (entries : List Entry) (latest : Latest) : Latest :=
  entries.foldl (fun latest entry => note latest entry.snapshot.candidateId entry.digest entry.data
    (entry.Visible cutoff)) latest

theorem foldlM_rows {entries : List Entry} {rows : List Row} (records : List.Forall₂ Records entries rows)
    {previous : String}
    (linked : Lineage.Linked Row.digest (fun row => some row.previousDigest) (some previous) rows)
    (cutoff : Moment) (latest : Latest) :
    rows.foldlM (readRow cutoff.isoformat) (previous, latest) =
      .ok ((rows.getLast?.map Row.digest).getD previous, noted cutoff entries latest) := by
  induction records generalizing previous latest with
  | nil => rfl
  | @cons entry row entries rows first rest ih =>
      obtain ⟨named, linked⟩ := linked
      have same : row.previousDigest = previous := Option.some.inj named
      subst same
      rw [first.digest] at linked
      have last : ((row :: rows).getLast?.map Row.digest).getD row.previousDigest =
          (rows.getLast?.map Row.digest).getD entry.digest := by
        rw [List.getLast?_cons, ← first.digest]
        cases rows.getLast? with
        | none => rfl
        | some last => rfl
      rw [List.foldlM_cons, readRow_records first, ok_bind, ih linked, last]
      rfl

theorem get?_noted (cutoff : Moment) (entries : List Entry) (candidateId : String) :
    (noted cutoff entries Dict.empty).get? candidateId =
      ((entries.filter fun entry => entry.Visible cutoff ∧ entry.snapshot.candidateId = candidateId).getLast?).map
        fun entry => (entry.data, entry.digest) := by
  induction entries using List.reverseRecOn with
  | nil => rfl
  | append_singleton entries entry ih =>
      rw [noted, List.foldl_append, List.foldl_cons, List.foldl_nil, ← noted, List.filter_append, note]
      by_cases seen : entry.Visible cutoff
      · rw [decide_eq_true seen, if_pos rfl, Dict.get?_set]
        by_cases same : candidateId = entry.snapshot.candidateId
        · rw [if_pos same, List.filter_cons_of_pos (by simp [seen, same]), List.filter_nil,
            List.getLast?_concat]
          rfl
        · rw [if_neg same, ih, List.filter_cons_of_neg (by simp [Ne.symm same]), List.filter_nil,
            List.append_nil]
      · rw [decide_eq_false seen, if_neg Bool.false_ne_true, ih,
          List.filter_cons_of_neg (by simp [seen]), List.filter_nil, List.append_nil]

theorem readTime_ok {text : String} {local_ instant : Moment} {offset : Int}
    (found : fromisoformat text.scalars = some (local_, some offset))
    (utc : local_.utc offset = some instant) : readTime text = .ok (.aware instant) := by
  unfold readTime
  simp only [found, utc]

theorem readTime_isoformat (moment : Moment) : readTime moment.isoformat = .ok (.aware moment) :=
  readTime_ok (fromisoformat_isoformat moment) moment.utc_zero

theorem textMember_canon {fields : List (String × Json)} {name : String} (value : String)
    (found : Json.lookup name fields = some (.str value)) :
    textMember (Json.canon (.obj fields)) name = .ok value := by
  rw [textMember, member, Json.get?_canon, Json.get?, found]
  rfl

theorem objectMember_canon {fields : List (String × Json)} {name : String} (value : List (String × Json))
    (found : Json.lookup name fields = some (.obj value)) :
    objectMember (Json.canon (.obj fields)) name = .ok (Json.canonFields value) := by
  rw [objectMember, member, Json.get?_canon, Json.get?, found]
  rfl

theorem readProject_canon (project : ProjectValidationTarget) :
    readProject (projectJson project).canon = .ok project := by
  have fields : Json.canonFields project.metadata = project.metadata := by
    have same := Json.canon_of_canonical (.obj project.metadata) project.canonical
    exact Json.obj.inj same
  rw [readProject, projectJson, textMember_canon project.projectId rfl, ok_bind,
    textMember_canon project.name rfl, ok_bind, textMember_canon project.sector rfl, ok_bind,
    objectMember_canon project.metadata rfl, ok_bind, dif_pos project.texts]
  cases project
  simp only [fields]

theorem evidenceDigest_payload (snapshot : HistoricalMembershipSnapshot) (ingested : Moment)
    (first second : String) :
    evidenceDigest (payload snapshot ingested first) = evidenceDigest (payload snapshot ingested second) := by
  simp [evidenceDigest, payload]

theorem dataDigest_data (entry : Entry) : dataDigest entry.data = entry.signedDigest := by
  have sorted : (Json.canonFields entry.members).filter (fun member => member.1 ≠ "upstream_attestation") =
      Json.canonFields (entry.members.filter fun member => member.1 ≠ "upstream_attestation") :=
    Json.filter_canonFields (fun key => key ≠ "upstream_attestation") entry.members
  rw [Entry.data, dataDigest, evidenceDigest, sorted, ← Json.canon, Json.asciiDumps_canon,
    ← evidenceDigest, Entry.members, Entry.signedDigest, evidenceDigest_payload]

theorem readEvidence_data (verify : Option (String → String → Bool)) (entry : Entry) :
    readEvidence verify (entry.snapshot.candidateId, entry.data, entry.digest) =
      .ok (entry.evidence verify) := by
  have project : member entry.data "project" = .ok (projectJson entry.snapshot.project).canon := by
    rw [member, get?_data]
    rfl
  rw [readEvidence, project, ok_bind, readProject_canon, ok_bind,
    textMember_data entry.snapshot.canonicalEntityId rfl, ok_bind,
    textMember_data entry.snapshot.identityOutcome rfl, ok_bind,
    textMember_data entry.snapshot.lifecycleStatus rfl, ok_bind,
    textMember_data entry.snapshot.knownAt.isoformat rfl, ok_bind, readTime_isoformat, ok_bind,
    textMember_data entry.snapshot.observedAt.isoformat rfl, ok_bind, readTime_isoformat, ok_bind,
    textMember_data entry.snapshot.sourceDigest rfl, ok_bind,
    textMember_data entry.attestation rfl, ok_bind, dataDigest_data]
  rfl

/-- What is read: for each candidate in their order the evidence of its newest entry. -/
structure Answer (cutoff : Moment) (verify : Option (String → String → Bool)) (entries : List Entry)
    (evidence : List MembershipEvidence) : Prop where
  sorted : evidence.Pairwise fun a b => a.candidateId < b.candidateId
  exact_ : ∀ item, item ∈ evidence ↔ ∃ entry, Newest cutoff entries entry ∧ item = entry.evidence verify

theorem entries_ordered {entries : List Entry} {rows : List Row}
    (records : List.Forall₂ Records entries rows) (ordered : rows.Pairwise Advances) :
    entries.Pairwise fun a b => a.snapshot.candidateId = b.snapshot.candidateId →
      a.snapshot.knownAt < b.snapshot.knownAt := by
  induction records with
  | nil => exact .nil
  | @cons entry row entries rows first rest ih =>
      obtain ⟨before, ordered⟩ := List.pairwise_cons.mp ordered
      refine List.pairwise_cons.mpr ⟨fun other inside same => ?_, ih ordered⟩
      obtain ⟨i, bound, rfl⟩ := List.getElem_of_mem inside
      have at_ : i < rows.length := rest.length_eq ▸ bound
      have recorded := rest.get bound at_
      simp only [List.get_eq_getElem] at recorded
      have less := before rows[i] (List.getElem_mem at_)
        (by rw [first.candidate, recorded.candidate, same])
      rw [first.known, recorded.known] at less
      exact isoformat_lt_iff.mp less

theorem newest_iff {cutoff : Moment} {entries : List Entry} {candidateId : String} {entry : Entry}
    (ordered : entries.Pairwise fun a b => a.snapshot.candidateId = b.snapshot.candidateId →
      a.snapshot.knownAt < b.snapshot.knownAt) :
    (entries.filter fun entry =>
      entry.Visible cutoff ∧ entry.snapshot.candidateId = candidateId).getLast? = some entry ↔
      Newest cutoff entries entry ∧ entry.snapshot.candidateId = candidateId := by
  have chosen (other : Entry) : other ∈ entries.filter (fun entry =>
      entry.Visible cutoff ∧ entry.snapshot.candidateId = candidateId) ↔
        other ∈ entries ∧ other.Visible cutoff ∧ other.snapshot.candidateId = candidateId := by
    rw [List.mem_filter, decide_eq_true_iff]
  have sorted := ordered.filter fun entry =>
    decide (entry.Visible cutoff ∧ entry.snapshot.candidateId = candidateId)
  constructor
  · intro last
    obtain ⟨inside, seen, mine⟩ := (chosen entry).mp (List.mem_of_getLast? last)
    refine ⟨⟨inside, seen, fun other there same also => ?_⟩, mine⟩
    obtain ⟨front, split⟩ := List.getLast?_eq_some_iff.mp last
    have member := (chosen other).mpr ⟨there, also, same.trans mine⟩
    rw [split] at member sorted
    rcases List.mem_append.mp member with before | this
    · exact Or.inr ((List.pairwise_append.mp sorted).2.2 other before entry
        (List.mem_singleton_self entry) same)
    · exact Or.inl (List.mem_singleton.mp this)
  · intro ⟨newest, mine⟩
    have member := (chosen entry).mpr ⟨newest.inside, newest.visible, mine⟩
    cases last : (entries.filter fun entry =>
        entry.Visible cutoff ∧ entry.snapshot.candidateId = candidateId).getLast? with
    | none =>
        rw [List.getLast?_eq_none_iff.mp last] at member
        exact absurd member List.not_mem_nil
    | some other =>
        obtain ⟨there, also, same⟩ := (chosen other).mp (List.mem_of_getLast? last)
        obtain ⟨front, split⟩ := List.getLast?_eq_some_iff.mp last
        rw [split] at member sorted
        rcases List.mem_append.mp member with before | this
        · have less := (List.pairwise_append.mp sorted).2.2 entry before other
            (List.mem_singleton_self other) (mine.trans same.symm)
          rcases newest.greatest other there (same.trans mine.symm) also with rfl | more
          · rfl
          · exact absurd (less.trans more) (lt_irrefl _)
        · rw [List.mem_singleton.mp this]

/-- The anchor of the accepted entries. -/
def anchorOf (repository : String) (entries : List Entry) : TrustedHistoryAnchor where
  repository := repository
  sequence := entries.length
  digest := (entries.getLast?.map Entry.digest).getD (genesis repository)

theorem last_digest {entries : List Entry} {rows : List Row} (records : List.Forall₂ Records entries rows)
    (start : String) :
    (rows.getLast?.map Row.digest).getD start = (entries.getLast?.map Entry.digest).getD start := by
  induction records generalizing start with
  | nil => rfl
  | @cons entry row entries rows first rest ih =>
      rw [List.getLast?_cons, List.getLast?_cons]
      have step := ih row.digest
      cases lastRow : rows.getLast? <;> cases lastEntry : entries.getLast? <;>
        simp_all [first.digest]

theorem Newest.eq {cutoff : Moment} {entries : List Entry} {entry other : Entry}
    (newest : Newest cutoff entries entry) (also : Newest cutoff entries other)
    (same : other.snapshot.candidateId = entry.snapshot.candidateId) : other = entry := by
  rcases newest.greatest other also.inside same also.visible with eq | less
  · exact eq
  · rcases also.greatest entry newest.inside same.symm newest.visible with eq | more
    · exact eq.symm
    · exact absurd (less.trans more) (lt_irrefl _)

/-- What a read holds of an entry. -/
def Entry.found (entry : Entry) : String × Json × String :=
  (entry.snapshot.candidateId, entry.data, entry.digest)

theorem sorted_keys (latest : Latest) :
    (latest.entries.mergeSort fun a b => a.1 ≤ b.1).Pairwise fun a b => a.1 < b.1 := by
  have ordered : (latest.entries.mergeSort fun a b => a.1 ≤ b.1).Pairwise
      fun a b => decide (a.1 ≤ b.1) = true := by
    apply List.pairwise_mergeSort
    · intro a b c first second
      exact decide_eq_true ((of_decide_eq_true first).trans (of_decide_eq_true second))
    · intro a b
      simpa using le_total a.1 b.1
  have distinct : (latest.entries.mergeSort fun a b => a.1 ≤ b.1).Pairwise fun a b => a.1 ≠ b.1 := by
    have keys : ((latest.entries.mergeSort fun a b => a.1 ≤ b.1).map Prod.fst).Nodup :=
      ((List.mergeSort_perm _ _).map Prod.fst).nodup_iff.mpr latest.nodup
    exact List.pairwise_map.mp keys
  exact (ordered.and distinct).imp fun both => lt_of_le_of_ne (of_decide_eq_true both.1) both.2

theorem asOf_recorded {repository : String} {history : ImmutableMembershipHistory} {entries : List Entry}
    (recorded : Recorded repository history entries) (cutoff : Moment)
    (verify : Option (String → String → Bool)) :
    ∃ evidence, history.asOf cutoff verify (some (anchorOf repository entries)) = .ok evidence ∧
      Answer cutoff verify entries evidence := by
  have ordered := entries_ordered recorded.rows recorded.chain.ordered
  have keys := sorted_keys (noted cutoff entries Dict.empty)
  have held (item : String × Json × String) : item ∈ (noted cutoff entries Dict.empty).entries.mergeSort
      (fun a b => a.1 ≤ b.1) ↔ ∃ entry, Newest cutoff entries entry ∧ entry.found = item := by
    obtain ⟨candidateId, data, digest⟩ := item
    rw [(List.mergeSort_perm _ _).mem_iff, ← Dict.get?_eq_some_iff, get?_noted, Option.map_eq_some_iff]
    simp only [newest_iff ordered, Prod.mk.injEq, and_assoc, Entry.found]
  have read : history.rows.foldlM (readRow cutoff.isoformat) (genesis repository, Dict.empty) =
      .ok ((anchorOf repository entries).digest, noted cutoff entries Dict.empty) := by
    rw [foldlM_rows recorded.rows recorded.chain.linked, last_digest recorded.rows]
    rfl
  generalize (noted cutoff entries Dict.empty) = latest at held keys read
  -- the items that are held are those of a list of newest entries
  obtain ⟨chosen, items⟩ : (latest.entries.mergeSort fun a b => a.1 ≤ b.1) ∈
      Set.range (List.map fun entry : { entry // Newest cutoff entries entry } => entry.val.found) := by
    rw [Set.range_list_map]
    intro item inside
    obtain ⟨entry, newest, same⟩ := (held item).mp inside
    exact ⟨⟨entry, newest⟩, same⟩
  rw [← items, List.pairwise_map] at keys
  refine ⟨chosen.map fun entry => entry.val.evidence verify, ?_, ?_, fun item => ?_⟩
  · have anchored : history.checkAnchor (some (anchorOf repository entries)) =
        .ok (anchorOf repository entries) := by
      rw [ImmutableMembershipHistory.checkAnchor, if_neg]
      exact fun differs => differs.2 recorded.origin.symm
    rw [ImmutableMembershipHistory.asOf, anchored, ok_bind]
    show (history.rows.foldlM (readRow cutoff.isoformat) (genesis repository, Dict.empty) >>= _) = _
    rw [read, ok_bind]
    dsimp only
    rw [require_of recorded.chain.numbered, ok_bind,
      require_of ⟨recorded.rows.length_eq.symm, rfl⟩, ok_bind, ← items, List.mapM_map]
    exact mapM_ok_of_forall fun entry _ => readEvidence_data verify entry.val
  · exact List.pairwise_map.mpr keys
  · rw [List.mem_map]
    constructor
    · intro ⟨entry, _, same⟩
      exact ⟨entry.val, entry.property, same.symm⟩
    · intro ⟨entry, newest, same⟩
      have inside := (held entry.found).mpr ⟨entry, newest, rfl⟩
      rw [← items, List.mem_map] at inside
      obtain ⟨other, there, found⟩ := inside
      have eq := newest.eq other.property (congrArg Prod.fst found)
      exact ⟨other, there, by rw [same, eq]⟩

theorem Admitted.verified {entry : Entry} (admitted : Admitted entry)
    (signed : entry.ingress.signEvidenceDigest ≠ none) :
    (entry.evidence entry.ingress.verifyEvidence).provenanceVerified = true := by
  have attested := admitted.attested
  unfold ImmutableMembershipHistory.attest at attested
  split at attested
  · rename_i unsigned
    exact absurd unsigned signed
  · rename_i sign named
    dsimp only at attested
    split_ifs at attested with verified
    rw [Entry.evidence, Entry.attestation, named]
    exact verified

/-- The texts whose digests chain the table. -/
def chainTexts (history : ImmutableMembershipHistory) : List String :=
  history.rows.map fun row => row.previousDigest ++ "\n" ++ row.content

theorem sha256_length (text : String) : (sha256 text).toList.length = 64 := by
  rw [sha256, Sha256.hexdigest, String.toList_ofList]
  simp [Sha256.hexDigits_length]

theorem blank_sha256 (text : String) : blank (sha256 text) = false := by
  have visible : ∀ d < 16, Chars.isSpace (Nat.digitChar d) = false := by decide
  let word := (Sha256.digest (Chars.encode text.scalars)).h
  have last : (word % 16).digitChar ∈ (sha256 text).scalars := by
    rw [sha256, Sha256.hexdigest, String.scalars_ofList]
    refine List.mem_flatMap.mpr ⟨word, by simp [word], ?_⟩
    exact List.mem_append_right _ (List.mem_singleton_self _)
  rw [blank, List.isEmpty_eq_false_iff]
  exact Chars.strip_ne_nil_of_mem last (visible _ (Nat.mod_lt _ (by decide)))

/-- The digest tells the texts of both tables apart. -/
def Collisionless (first second : ImmutableMembershipHistory) : Prop :=
  ∀ a ∈ chainTexts first ++ chainTexts second, ∀ b ∈ chainTexts first ++ chainTexts second,
    sha256 a = sha256 b → a = b

theorem attest_signed (sign : String → String) {ingress : Ingress} {verify : String → String → Bool}
    (signs : ingress.signEvidenceDigest = some sign) (verifies : ingress.verifyEvidence = some verify)
    (takes : ∀ digest, verify (sign digest) digest = true) (snapshot : HistoricalMembershipSnapshot)
    (now : Moment) :
    ImmutableMembershipHistory.attest snapshot ingress now =
      .ok (sign (evidenceDigest (payload snapshot now snapshot.upstreamAttestation))) := by
  unfold ImmutableMembershipHistory.attest
  rw [signs, verifies]
  exact if_pos (takes _)

theorem checkAdvance_fresh {history : ImmutableMembershipHistory} {candidateId : String} (known : String)
    (fresh : ∀ row ∈ history.rows, row.candidateId ≠ candidateId) :
    history.checkAdvance candidateId known = .ok () := by
  have none : (history.rows.filter fun row => row.candidateId = candidateId) = [] :=
    List.filter_eq_nil_iff.mpr fun row inside same => fresh row inside (of_decide_eq_true same)
  rw [ImmutableMembershipHistory.checkAdvance, none]
  rfl

/-- The row of the first snapshot of a candidate. -/
theorem append_fresh {history : ImmutableMembershipHistory} {snapshot : HistoricalMembershipSnapshot}
    {ingress : Ingress} {now : Moment} {attestation last content : String}
    (checked : ImmutableMembershipHistory.checkSnapshot snapshot ingress now = .ok ())
    (unregistered : ingress.registry = none)
    (attested : ImmutableMembershipHistory.attest snapshot ingress now = .ok attestation)
    (candidate : ∀ row ∈ history.rows, row.candidateId ≠ snapshot.candidateId)
    (tip : history.lastDigest = last)
    (written : Json.asciiDumps (.obj (payload snapshot now attestation)) = content)
    (digest : chained last content ∉ history.rows.map Row.digest) :
    history.append snapshot ingress now = .ok (chained last content,
      { history with
        rows := history.rows ++
          [⟨(history.rows.getLast?.map Row.sequence).getD 0 + 1, snapshot.candidateId,
            snapshot.knownAt.isoformat, content, chained last content, last⟩] }) := by
  rw [ImmutableMembershipHistory.append, checked, ok_bind, unregistered,
    ImmutableMembershipHistory.checkRegistry, ok_bind, attested, ok_bind,
    checkAdvance_fresh _ candidate, ok_bind, ImmutableMembershipHistory.insert, tip, written]
  rw [require_of digest, ok_bind]

theorem no_metadata : List.Pairwise (fun a b => a.1 < b.1) ([] : List (String × Json)) ∧
    Json.CanonicalFields [] :=
  ⟨.nil, trivial⟩

def sampleProject : ProjectValidationTarget :=
  ⟨"entity-1", "Entity 1", "other", [], by decide, no_metadata⟩

def sampleMoment : Moment := ⟨0, Calendar.zero_lt_end⟩

def sampleSnapshot : HistoricalMembershipSnapshot where
  candidateId := "candidate-1"
  canonicalEntityId := "entity-1"
  project := sampleProject
  identityOutcome := "exact"
  lifecycleStatus := "identified"
  observedAt := sampleMoment
  knownAt := sampleMoment
  sourceDigest := "sha256:1"
  registryReference := "registry:1"
  upstreamAttestation := ""

/-- Digests are signed by themselves. -/
def sampleIngress : Ingress := ⟨none, some id, some fun attestation digest => attestation = digest⟩

theorem sample_attest (snapshot : HistoricalMembershipSnapshot) :
    ImmutableMembershipHistory.attest snapshot sampleIngress sampleMoment =
      .ok (evidenceDigest (payload snapshot sampleMoment snapshot.upstreamAttestation)) := by
  have takes : ∀ digest : String, decide (id digest = digest) = true := fun digest => decide_eq_true rfl
  exact attest_signed id rfl rfl takes snapshot sampleMoment

def sampleContent : String :=
  Json.asciiDumps (.obj (payload sampleSnapshot sampleMoment
    (evidenceDigest (payload sampleSnapshot sampleMoment ""))))

def sampleHistory : ImmutableMembershipHistory :=
  ⟨"repository", [⟨1, "candidate-1", sampleMoment.isoformat, sampleContent,
    chained (genesis "repository") sampleContent, genesis "repository"⟩]⟩

def sampleCall : Call :=
  ⟨sampleSnapshot, sampleIngress, sampleMoment, some (chained (genesis "repository") sampleContent)⟩

theorem sample_run : Run Step ⟨"repository", []⟩ [sampleCall] sampleHistory := by
  have checked : ImmutableMembershipHistory.checkSnapshot sampleSnapshot sampleIngress sampleMoment =
      .ok () := by
    decide
  refine Run.nil.snoc (.accepted ?_ rfl)
  exact append_fresh checked rfl (sample_attest sampleSnapshot) (fun _ inside => absurd inside List.not_mem_nil)
    rfl rfl List.not_mem_nil

def paddedProject : ProjectValidationTarget :=
  ⟨"entity-2", "Entity 2", "other", [], by decide, no_metadata⟩

def paddedSnapshot : HistoricalMembershipSnapshot :=
  { sampleSnapshot with
    candidateId := " candidate-1"
    canonicalEntityId := "entity-2"
    project := paddedProject }

def paddedContent : String :=
  Json.asciiDumps (.obj (payload paddedSnapshot sampleMoment
    (evidenceDigest (payload paddedSnapshot sampleMoment ""))))

def firstDigest : String := chained (genesis "repository") sampleContent

def paddedDigest : String := chained firstDigest paddedContent

def paddedHistory : ImmutableMembershipHistory :=
  ⟨"repository", sampleHistory.rows ++
    [⟨2, " candidate-1", sampleMoment.isoformat, paddedContent, paddedDigest, firstDigest⟩]⟩

def paddedCall : Call := ⟨paddedSnapshot, sampleIngress, sampleMoment, some paddedDigest⟩

theorem firstDigest_eq : firstDigest =
    "43ea20bb2376e9fec12a58273cfedfd3291409fb2e04e1d2668a69a2fdc8c6cd" := by
  have evidence : evidenceDigest (payload sampleSnapshot sampleMoment "") =
      "4e2dee64236901cf1dbe14b5acd9b289b626687370ef87bdd0641a51eebb97ba" := by
    rw [evidenceDigest, Json.asciiDumps, sha256_ofList]
    decide +kernel
  rw [firstDigest, sampleContent, evidence, Json.asciiDumps, chained_ofList]
  decide +kernel

theorem paddedDigest_eq : paddedDigest =
    "2b95e5613a83261ab9aeef7b7372f4875df3df479284b12b66238cf31805cf17" := by
  have evidence : evidenceDigest (payload paddedSnapshot sampleMoment "") =
      "7fec1f18b9587359a7e969e5144d8fe8001ae9bc79bf6711c3b75ea6ac7c4fed" := by
    rw [evidenceDigest, Json.asciiDumps, sha256_ofList]
    decide +kernel
  rw [paddedDigest, firstDigest_eq, paddedContent, evidence, Json.asciiDumps, chained_ofList]
  decide +kernel

theorem padded_fresh : paddedDigest ≠ firstDigest := by
  rw [paddedDigest_eq, firstDigest_eq]
  decide

theorem padded_run : Run Step ⟨"repository", []⟩ [sampleCall, paddedCall] paddedHistory := by
  have checked : ImmutableMembershipHistory.checkSnapshot paddedSnapshot sampleIngress sampleMoment =
      .ok () := by
    decide
  have candidate : ∀ row ∈ sampleHistory.rows, row.candidateId ≠ paddedSnapshot.candidateId :=
    fun row inside => List.mem_singleton.mp inside ▸ by decide
  refine sample_run.snoc (.accepted ?_ rfl)
  exact append_fresh checked rfl (sample_attest paddedSnapshot) candidate rfl rfl
    fun old => padded_fresh (List.mem_singleton.mp old)

end Hunter.MarketValidation
