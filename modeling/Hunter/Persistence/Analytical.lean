import Mathlib
import Hunter.Data.Fallible
import Hunter.Data.Lineage
import Hunter.Json.Value
import Hunter.Machine.Run
import Hunter.Text.Calendar
import Hunter.Text.Words

/-!
Analytical records, which are corrected by records that name them and never changed. A
replay takes the records that were known and effective by its bounds and leaves out those
that one of them corrects. A correction has a stored predecessor and no stored record has
the identity of a new one, so the corrections form a forest in the order of their writes
and a replay finds a record whenever there is one to find.
-/

namespace Hunter.Persistence

open Calendar Fallible

inductive Exn where
  | correctionConflict (message : String)
  | identityConflict (id : String)
  deriving DecidableEq, Repr

def blank (text : String) : Bool := (Chars.strip text.scalars).isEmpty

structure AnalyticalRecord where
  id : String
  schemaVersion : String
  createdAt : Moment
  effectiveAt : Moment
  logicalIdentity : String
  semanticType : String
  knownAt : Option Moment
  knownTimeLimitation : Option String
  modelVersion : Option String
  methodologyFingerprint : Option String
  sourceRecordIds : List String
  sourceVersions : List String
  evidenceReferences : List String
  missingEvidence : List String
  supersedesId : Option String
  correctionReason : Option String
  /-- The confidence, the metadata and the payload. -/
  content : Json
  texts : ∀ value ∈ [id, schemaVersion, logicalIdentity, semanticType] ++ modelVersion.toList ++
    methodologyFingerprint.toList ++ sourceRecordIds ++ sourceVersions ++ evidenceReferences ++
      missingEvidence ++ supersedesId.toList, blank value = false
  known : ∀ moment ∈ knownAt, moment ≤ createdAt ∧ knownTimeLimitation = none
  unknown : knownAt = none → ∃ limitation ∈ knownTimeLimitation, limitation ≠ ""
  versions : sourceRecordIds.length = sourceVersions.length
  corrects : ∀ predecessor ∈ supersedesId, predecessor ≠ id ∧ ∃ reason ∈ correctionReason, reason ≠ ""
  creates : supersedesId = none → correctionReason = none
  deriving DecidableEq

namespace AnalyticalRecord

def recordedAt (record : AnalyticalRecord) : Moment := record.createdAt

def strictKnownEligible (record : AnalyticalRecord) : Bool :=
  record.knownAt.isSome && record.knownTimeLimitation.isNone

/-- The records are sorted by the recorded time, then by the identity. -/
def place (record : AnalyticalRecord) : Moment ×ₗ String := toLex (record.recordedAt, record.id)

end AnalyticalRecord

inductive Operation where
  | create | correct
  deriving DecidableEq, Repr

structure AuthorizedAnalyticalWrite where
  record : AnalyticalRecord
  operation : Operation
  authorized : operation = .create ↔ record.supersedesId = none

structure AnalyticalReplaySpec where
  logicalIdentity : String
  effectiveAsOf : Moment
  knownBy : Moment
  named : blank logicalIdentity = false

/-- The stored records. None is ever deleted. -/
abbrev Repository : Type := List AnalyticalRecord

namespace Repository

def load (stored : Repository) (identity : String) : Option AnalyticalRecord :=
  stored.find? fun record => record.id = identity

/-- The hash of a record covers all of it, and is compared as the record. -/
def save (stored : Repository) (record : AnalyticalRecord) :
    Except Exn (AnalyticalRecord × Repository) :=
  match stored.load record.id with
  | some existing =>
      if existing = record then .ok (existing, stored) else .error (.identityConflict record.id)
  | none => .ok (record, stored ++ [record])

def checkOperation (stored : Repository) (plan : AuthorizedAnalyticalWrite) : Except Exn Unit :=
  match plan.operation with
  | .create => .ok ()
  | .correct =>
      match stored.load (plan.record.supersedesId.getD "") with
      | none => .error (.correctionConflict "correction predecessor does not exist")
      | some predecessor =>
          require (predecessor.logicalIdentity = plan.record.logicalIdentity)
            (.correctionConflict "correction must preserve logical_identity")

def persist (stored : Repository) (plan : AuthorizedAnalyticalWrite) :
    Except Exn (AnalyticalRecord × Repository) := do
  stored.checkOperation plan
  stored.save plan.record

def lineage (stored : Repository) (logicalIdentity : String) : List AnalyticalRecord :=
  (stored.filter fun record => record.logicalIdentity = logicalIdentity).mergeSort
    fun a b => a.place ≤ b.place

/-- The record counts for a replay. -/
def eligible (spec : AnalyticalReplaySpec) (record : AnalyticalRecord) : Bool :=
  record.strictKnownEligible && record.effectiveAt ≤ spec.effectiveAsOf &&
    record.recordedAt ≤ spec.knownBy && record.knownAt.any fun moment => moment ≤ spec.knownBy

def strictKnown (stored : Repository) (spec : AnalyticalReplaySpec) : Option AnalyticalRecord :=
  let found := (stored.lineage spec.logicalIdentity).filter (eligible spec)
  let superseded := found.filterMap AnalyticalRecord.supersedesId
  let current := found.filter fun record => record.id ∉ superseded
  (current.mergeSort fun a b => b.place ≤ a.place).head?

/-- A write that is refused leaves the repository as it is. -/
def perform (stored : Repository) (plan : AuthorizedAnalyticalWrite) : Repository :=
  committed stored (stored.persist plan)

/-- The record is of the identity that is replayed and counts for the replay. -/
def Eligible (spec : AnalyticalReplaySpec) (record : AnalyticalRecord) : Prop :=
  record.logicalIdentity = spec.logicalIdentity ∧ eligible spec record = true

instance decidableEligible (spec : AnalyticalReplaySpec) (record : AnalyticalRecord) :
    Decidable (Eligible spec record) :=
  inferInstanceAs (Decidable (_ ∧ _))

/-- An eligible record that no eligible one corrects. -/
structure Current (stored : Repository) (spec : AnalyticalReplaySpec) (record : AnalyticalRecord) :
    Prop where
  present : record ∈ stored
  eligible : Eligible spec record
  uncorrected : ∀ other ∈ stored, Eligible spec other → other.supersedesId ≠ some record.id

/-- Identities are distinct, and a correction names a record that was stored before. -/
structure Sound (stored : Repository) : Prop where
  distinct : (stored.map AnalyticalRecord.id).Nodup
  forest : Lineage.Forest AnalyticalRecord.id AnalyticalRecord.supersedesId stored
  present : ∀ record ∈ stored, ∀ identity ∈ record.supersedesId,
    identity ∈ stored.map AnalyticalRecord.id

theorem sound_nil : Sound [] :=
  ⟨List.nodup_nil, Lineage.Forest.nil, fun _ there => absurd there List.not_mem_nil⟩

theorem load_eq_none {stored : Repository} {identity : String} :
    stored.load identity = none ↔ identity ∉ stored.map AnalyticalRecord.id := by
  rw [load, List.find?_eq_none, List.mem_map]
  constructor
  · intro absent there
    obtain ⟨record, inside, same⟩ := there
    exact absent record inside (decide_eq_true same)
  · intro absent record inside same
    exact absent ⟨record, inside, of_decide_eq_true same⟩

theorem mem_of_load {stored : Repository} {identity : String} {record : AnalyticalRecord}
    (loaded : stored.load identity = some record) : record ∈ stored ∧ record.id = identity :=
  ⟨List.mem_of_find?_eq_some loaded, by simpa using List.find?_some loaded⟩

/-- What an accepted write does: nothing, or it appends a record of a new identity that
corrects none or a stored one. -/
theorem persist_ok {stored after : Repository} {plan : AuthorizedAnalyticalWrite}
    {record : AnalyticalRecord} (done : stored.persist plan = .ok (record, after)) :
    after = stored ∨ after = stored ++ [plan.record] ∧
      plan.record.id ∉ stored.map AnalyticalRecord.id ∧
        ∀ identity ∈ plan.record.supersedesId, identity ∈ stored.map AnalyticalRecord.id := by
  obtain ⟨checked, saved⟩ := check_ok.mp done
  unfold save at saved
  split at saved
  · split at saved
    · cases saved
      exact Or.inl rfl
    · cases saved
  · rename_i absent
    cases saved
    refine Or.inr ⟨rfl, load_eq_none.mp absent, fun identity names => ?_⟩
    rw [Option.mem_def] at names
    unfold checkOperation at checked
    split at checked
    · rename_i create
      rw [plan.authorized.mp create] at names
      cases names
    · rw [names, Option.getD_some] at checked
      split at checked
      · cases checked
      · rename_i predecessor loaded
        obtain ⟨inside, rfl⟩ := mem_of_load loaded
        exact List.mem_map_of_mem inside

theorem Sound.append {stored : Repository} {record : AnalyticalRecord} (sound : Sound stored)
    (fresh : record.id ∉ stored.map AnalyticalRecord.id)
    (names : ∀ identity ∈ record.supersedesId, identity ∈ stored.map AnalyticalRecord.id) :
    Sound (stored ++ [record]) where
  distinct := by
    rw [List.map_append, List.nodup_append]
    refine ⟨sound.distinct, List.nodup_singleton _, ?_⟩
    intro identity old other new same
    rw [List.map_singleton, List.mem_singleton] at new
    exact fresh (new ▸ same ▸ old)
  forest := by
    refine sound.forest.snoc ?_ fun own => (record.corrects record.id own).1 rfl
    exact fun other inside own => fresh (sound.present other inside record.id own)
  present := by
    intro other inside identity named
    rw [List.map_append, List.mem_append]
    rcases List.mem_append.mp inside with old | new
    · exact Or.inl (sound.present other old identity named)
    · exact Or.inl (names identity (List.mem_singleton.mp new ▸ named))

theorem Sound.perform {stored : Repository} (sound : Sound stored) (plan : AuthorizedAnalyticalWrite) :
    Sound (stored.perform plan) := by
  refine committed_cases sound fun record after done => ?_
  rcases persist_ok done with same | ⟨appended, fresh, names⟩
  · exact same ▸ sound
  · exact appended ▸ sound.append fresh names

theorem run_sound {writes : List AuthorizedAnalyticalWrite} {stored : Repository}
    (run : Run (fun s plan t => Repository.perform s plan = t) [] writes stored) : Sound stored := by
  refine run.preserves Sound ?_ sound_nil
  rintro s plan t sound rfl
  exact sound.perform plan

/-- The head of a list that is sorted by a key that its items do not share. -/
theorem head?_mergeSort {α κ : Type} [LinearOrder κ] {key : α → κ} {items : List α} {a : α}
    (apart : ∀ x ∈ items, ∀ y ∈ items, key x = key y → x = y) :
    (items.mergeSort fun x y => key y ≤ key x).head? = some a ↔
      a ∈ items ∧ ∀ b ∈ items, key b ≤ key a := by
  have sorted : (items.mergeSort fun x y => key y ≤ key x).Pairwise fun x y => key y ≤ key x := by
    have ordered : (items.mergeSort fun x y => key y ≤ key x).Pairwise
        fun x y => decide (key y ≤ key x) = true := by
      apply List.pairwise_mergeSort
      · intro x y z first second
        exact decide_eq_true ((of_decide_eq_true second).trans (of_decide_eq_true first))
      · intro x y
        simpa using le_total (key y) (key x)
    simpa only [decide_eq_true_eq] using ordered
  have same (x : α) : x ∈ items.mergeSort (fun x y => key y ≤ key x) ↔ x ∈ items :=
    (List.mergeSort_perm _ _).mem_iff
  generalize items.mergeSort (fun x y => decide (key y ≤ key x)) = list at sorted same
  have greatest {x : α} (first : list.head? = some x) : x ∈ items ∧ ∀ b ∈ items, key b ≤ key x := by
    obtain ⟨rest, rfl⟩ := List.head?_eq_some_iff.mp first
    refine ⟨(same x).mp List.mem_cons_self, fun b there => ?_⟩
    rcases List.mem_cons.mp ((same b).mpr there) with rfl | later
    · exact le_refl _
    · exact (List.pairwise_cons.mp sorted).1 b later
  refine ⟨greatest, fun ⟨there, most⟩ => ?_⟩
  cases first : list.head? with
  | none =>
      rw [List.head?_eq_none_iff.mp first] at same
      exact absurd ((same a).mpr there) List.not_mem_nil
  | some x =>
      obtain ⟨inside, most'⟩ := greatest first
      rw [apart x inside a there (le_antisymm (most x inside) (most' a there))]

theorem mem_found {stored : Repository} {spec : AnalyticalReplaySpec} {record : AnalyticalRecord} :
    record ∈ (stored.lineage spec.logicalIdentity).filter (eligible spec) ↔
      record ∈ stored ∧ Eligible spec record := by
  rw [List.mem_filter, lineage, (List.mergeSort_perm _ _).mem_iff, List.mem_filter, decide_eq_true_iff,
    and_assoc, Eligible]

theorem mem_current {stored : Repository} {spec : AnalyticalReplaySpec} {record : AnalyticalRecord} :
    record ∈ ((stored.lineage spec.logicalIdentity).filter (eligible spec)).filter (fun record =>
      record.id ∉ ((stored.lineage spec.logicalIdentity).filter (eligible spec)).filterMap
        AnalyticalRecord.supersedesId) ↔ Current stored spec record := by
  rw [List.mem_filter, mem_found, decide_eq_true_iff, List.mem_filterMap]
  simp only [mem_found]
  constructor
  · intro ⟨⟨inside, counts⟩, free⟩
    exact ⟨inside, counts, fun other there also names => free ⟨other, ⟨there, also⟩, names⟩⟩
  · intro current
    refine ⟨⟨current.present, current.eligible⟩, fun ⟨other, ⟨there, also⟩, names⟩ => ?_⟩
    exact current.uncorrected other there also names

theorem place_inj {stored : Repository} (sound : Sound stored) {a b : AnalyticalRecord}
    (ha : a ∈ stored) (hb : b ∈ stored) (same : a.place = b.place) : a = b :=
  List.inj_on_of_nodup_map sound.distinct ha hb (congrArg (fun place => (ofLex place).2) same)

theorem strictKnown_eq_some {stored : Repository} (sound : Sound stored) {spec : AnalyticalReplaySpec}
    {record : AnalyticalRecord} :
    stored.strictKnown spec = some record ↔
      Current stored spec record ∧ ∀ other, Current stored spec other → other.place ≤ record.place := by
  unfold strictKnown
  rw [head?_mergeSort]
  · simp only [mem_current]
  · intro a first b second
    exact place_inj sound (mem_current.mp first).present (mem_current.mp second).present

theorem strictKnown_eq_none {stored : Repository} (sound : Sound stored) {spec : AnalyticalReplaySpec} :
    stored.strictKnown spec = none ↔ ∀ record ∈ stored, ¬Eligible spec record := by
  unfold strictKnown
  rw [List.head?_eq_none_iff, List.eq_nil_iff_forall_not_mem]
  simp only [(List.mergeSort_perm _ _).mem_iff, mem_current]
  constructor
  · intro empty record there counts
    obtain ⟨last, inside, also, unnamed⟩ := sound.forest.unnamed there counts
    exact empty last ⟨inside, also, unnamed⟩
  · exact fun empty record current => empty record current.present current.eligible

/-- What is recorded after the bound of a replay does not change its answer. -/
theorem strictKnown_append {stored : Repository} {record : AnalyticalRecord}
    (sound : Sound stored) (grown : Sound (stored ++ [record])) {spec : AnalyticalReplaySpec}
    (later : spec.knownBy < record.recordedAt) :
    (stored ++ [record]).strictKnown spec = stored.strictKnown spec := by
  have out : ¬Eligible spec record := by
    intro ⟨_, counts⟩
    simp only [eligible, Bool.and_eq_true, decide_eq_true_eq] at counts
    exact absurd counts.1.2 (not_le.mpr later)
  have same (other : AnalyticalRecord) :
      Current (stored ++ [record]) spec other ↔ Current stored spec other := by
    constructor
    · intro ⟨there, counts, uncorrected⟩
      rcases List.mem_append.mp there with old | new
      · exact ⟨old, counts, fun b inside => uncorrected b (List.mem_append_left _ inside)⟩
      · exact absurd (List.mem_singleton.mp new ▸ counts) out
    · intro ⟨there, counts, uncorrected⟩
      refine ⟨List.mem_append_left _ there, counts, fun b inside also => ?_⟩
      rcases List.mem_append.mp inside with old | new
      · exact uncorrected b old also
      · exact absurd (List.mem_singleton.mp new ▸ also) out
  ext answer
  rw [strictKnown_eq_some sound, strictKnown_eq_some grown]
  simp only [same]

end Repository

/-- A replay finds nothing only where nothing is eligible, else an eligible record that no
eligible record corrects, and a write recorded after its bound does not change it. -/
theorem strict_known_replay {writes : List AuthorizedAnalyticalWrite} {stored : Repository}
    (run : Run (fun s plan t => Repository.perform s plan = t) [] writes stored)
    (spec : AnalyticalReplaySpec) :
    (stored.strictKnown spec = none ↔ ∀ record ∈ stored, ¬Repository.Eligible spec record) ∧
      (∀ record, stored.strictKnown spec = some record →
        record ∈ stored ∧ Repository.Eligible spec record ∧
          ∀ other ∈ stored, other.supersedesId = some record.id → ¬Repository.Eligible spec other) ∧
      ∀ plan record after, stored.persist plan = .ok (record, after) →
        spec.knownBy < plan.record.recordedAt →
          Repository.strictKnown after spec = stored.strictKnown spec := by
  have sound := Repository.run_sound run
  refine ⟨Repository.strictKnown_eq_none sound, ?_, ?_⟩
  · intro record found
    obtain ⟨current, -⟩ := (Repository.strictKnown_eq_some sound).mp found
    exact ⟨current.present, current.eligible, fun other there names also =>
      current.uncorrected other there also names⟩
  · intro plan record after done later
    rcases Repository.persist_ok done with same | ⟨appended, fresh, names⟩
    · rw [same]
    · rw [appended]
      exact Repository.strictKnown_append sound (sound.append fresh names) later

def micro (micros : Fin 8) : Moment := ⟨micros.val, Nat.lt_of_lt_of_le micros.isLt (by decide)⟩

/-- A record that says nothing but when it was recorded and known and what it corrects. -/
def sampleRecord (id : String) (recorded : Fin 8) (known : Option (Fin 8)) (predecessor : Option String)
    (texts : ∀ value ∈ [id, "1", "asset", "fact"] ++ predecessor.toList, blank value = false)
    (times : ∀ micros ∈ known, micros ≤ recorded) (proper : predecessor ≠ some id) :
    AnalyticalRecord where
  id := id
  schemaVersion := "1"
  createdAt := micro recorded
  effectiveAt := micro 0
  logicalIdentity := "asset"
  semanticType := "fact"
  knownAt := known.map micro
  knownTimeLimitation := if known.isSome then none else some "unknown"
  modelVersion := none
  methodologyFingerprint := none
  sourceRecordIds := []
  sourceVersions := []
  evidenceReferences := []
  missingEvidence := []
  supersedesId := predecessor
  correctionReason := predecessor.map fun _ => "revised"
  content := .null
  texts := by simpa using texts
  known moment there := by
    obtain ⟨micros, named, rfl⟩ := Option.map_eq_some_iff.mp there
    rw [named]
    exact ⟨times micros named, rfl⟩
  unknown absent := ⟨"unknown", by rw [Option.map_eq_none_iff.mp absent]; rfl, by decide⟩
  versions := rfl
  corrects other names := by
    rw [Option.mem_def] at names
    subst names
    exact ⟨fun same => proper (congrArg some same), "revised", rfl, by decide⟩
  creates absent := by rw [absent]; rfl

def sampleFirst : AnalyticalRecord :=
  sampleRecord "a" 3 (some 1) none (by decide) (by decide) (by decide)

def sampleSecond : AnalyticalRecord :=
  sampleRecord "b" 4 none (some "a") (by decide) (by decide) (by decide)

def sampleThird : AnalyticalRecord :=
  sampleRecord "c" 2 (some 1) (some "b") (by decide) (by decide) (by decide)

def sampleWrites : List AuthorizedAnalyticalWrite :=
  [⟨sampleFirst, .create, by decide⟩, ⟨sampleSecond, .correct, by decide⟩,
    ⟨sampleThird, .correct, by decide⟩]

def sampleSpec : AnalyticalReplaySpec := ⟨"asset", micro 5, micro 5, by decide⟩

theorem sample_run : Run (fun s plan t => Repository.perform s plan = t) [] sampleWrites
    [sampleFirst, sampleSecond, sampleThird] := by
  refine ((Run.nil.snoc (t := [sampleFirst]) ?_).snoc (t := [sampleFirst, sampleSecond]) ?_).snoc ?_
  · rfl
  · decide
  · decide

theorem strict_known_replay_sample :
    Repository.strictKnown [sampleFirst, sampleSecond, sampleThird] sampleSpec ≠ none := by
  intro nothing
  have none_eligible := (strict_known_replay sample_run sampleSpec).1.mp nothing
  exact none_eligible sampleFirst List.mem_cons_self ⟨rfl, by decide⟩

/-- The first record is found although the correction of its correction is eligible. -/
theorem strict_known_replay_fails :
    ¬∀ writes stored, Run (fun s plan t => Repository.perform s plan = t) [] writes stored →
      ∀ spec record, stored.strictKnown spec = some record →
        ∀ other, Relation.TransGen (fun a b => b ∈ stored ∧ b.supersedesId = some a.id) record other →
          ¬Repository.Eligible spec other := by
  intro claim
  have found : Repository.strictKnown [sampleFirst, sampleSecond, sampleThird] sampleSpec =
      some sampleFirst := by
    refine (Repository.strictKnown_eq_some (Repository.run_sound sample_run)).mpr ⟨⟨?_, ?_, ?_⟩, ?_⟩
    · exact List.mem_cons_self
    · exact ⟨rfl, by decide⟩
    · decide
    · have all : ∀ other ∈ [sampleFirst, sampleSecond, sampleThird],
          Repository.Eligible sampleSpec other → other.place ≤ sampleFirst.place := by
        decide
      exact fun other current => all other current.present current.eligible
  refine claim _ _ sample_run sampleSpec sampleFirst found sampleThird ?_ ⟨rfl, by decide⟩
  refine (Relation.TransGen.single (b := sampleSecond) ⟨?_, rfl⟩).tail ⟨?_, rfl⟩
  · decide
  · decide

end Hunter.Persistence
