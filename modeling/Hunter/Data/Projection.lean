import Mathlib

/-!
Histories of entries that are put under their identities, and the current status of
their owners kept beside them. The status follows the history as long as every entry
is put in order; what was known by a cutoff stays as long as no known entry is put
again. For each step the condition is exact.
-/

namespace Projection

/-- What an entry says: whose it is, its two times and the status from then on. -/
structure Fields (α ι ο τ σ : Type) where
  id : α → ι
  owner : α → ο
  effectiveAt : α → τ
  recordedAt : α → τ
  status : α → σ

variable {α ι ο τ σ : Type} [LinearOrder ι] [DecidableEq ο] [LinearOrder τ] (F : Fields α ι ο τ σ)

namespace Fields

/-- The order of a history: by both times, then by the identity. -/
def key (entry : α) : Lex (τ × Lex (τ × ι)) :=
  toLex (F.effectiveAt entry, toLex (F.recordedAt entry, F.id entry))

/-- The last entry of a history. -/
def latest (entries : List α) : Option α := entries.argmax F.key

def ofOwner (owner : ο) (entries : List α) : List α := entries.filter fun entry => F.owner entry = owner

/-- The entries under another identity. -/
def others (entry : α) (entries : List α) : List α := entries.filter fun other => F.id other ≠ F.id entry

/-- An entry replaces the one under its identity. -/
def put (entry : α) (entries : List α) : List α := F.others entry entries ++ [entry]

/-- The entries in effect and recorded by the cutoff. -/
def knownBy (owner : ο) (cutoff : τ) (entries : List α) : List α :=
  entries.filter fun entry =>
    F.owner entry = owner ∧ F.effectiveAt entry ≤ cutoff ∧ F.recordedAt entry ≤ cutoff

def statusKnownBy (owner : ο) (cutoff : τ) (entries : List α) : Option σ :=
  (F.latest (F.knownBy owner cutoff entries)).map F.status

/-- The current statuses are those of the last entries. -/
def Agrees (current : ο → Option σ) (entries : List α) : Prop :=
  ∀ owner status, current owner = some status →
    ∃ last, F.latest (F.ofOwner owner entries) = some last ∧ F.status last = status

/-- No later entry of the owner has another status, and an entry that moves away from
another owner leaves the current status of that owner at the end of its history. -/
structure InOrder (current : ο → Option σ) (entries : List α) (entry : α) : Prop where
  newest : ∀ last, F.latest (F.ofOwner (F.owner entry) (F.others entry entries)) = some last →
    ¬F.key last < F.key entry → F.status last = F.status entry
  moved : ∀ old ∈ entries, F.id old = F.id entry → F.owner old ≠ F.owner entry →
    ∀ status, current (F.owner old) = some status →
      ∃ last, F.latest (F.ofOwner (F.owner old) (F.others entry entries)) = some last ∧
        F.status last = status

end Fields

variable {F} {entries : List α} {entry : α} {current : ο → Option σ}

omit [DecidableEq ο] in
theorem latest_concat (entries : List α) (entry : α) :
    F.latest (entries ++ [entry]) = some (match F.latest entries with
      | none => entry
      | some last => if F.key last < F.key entry then entry else last) := by
  unfold Fields.latest
  rw [List.argmax_concat]
  cases List.argmax F.key entries with
  | none => rfl
  | some last =>
      show (if _ then _ else _) = some (if _ then _ else _)
      split <;> rfl

omit [LinearOrder τ] in
theorem ofOwner_put_self :
    F.ofOwner (F.owner entry) (F.put entry entries) =
      F.ofOwner (F.owner entry) (F.others entry entries) ++ [entry] := by
  unfold Fields.ofOwner Fields.put
  rw [List.filter_append]
  congr 1
  exact List.filter_eq_self.mpr fun other there => by
    rw [List.mem_singleton.mp there]
    exact decide_eq_true rfl

omit [LinearOrder τ] in
theorem ofOwner_put_other {owner : ο} (other : F.owner entry ≠ owner) :
    F.ofOwner owner (F.put entry entries) = F.ofOwner owner (F.others entry entries) := by
  unfold Fields.ofOwner Fields.put
  rw [List.filter_append]
  refine (congrArg _ (List.filter_eq_nil_iff.mpr ?_)).trans (List.append_nil _)
  intro last there
  rw [List.mem_singleton.mp there]
  exact fun same => other (of_decide_eq_true same)

omit [DecidableEq ο] [LinearOrder τ] in
/-- Entries of an owner that has none under the identity. -/
theorem filter_others {p : α → Bool} (none : ∀ old ∈ entries, p old = true → F.id old ≠ F.id entry) :
    (F.others entry entries).filter p = entries.filter p := by
  unfold Fields.others
  rw [List.filter_filter]
  refine List.filter_congr fun old there => ?_
  cases held : p old with
  | false => rfl
  | true => rw [Bool.true_and, decide_eq_true (none old there held)]

/-- The status follows the history after an entry if and only if the entry is in order. -/
theorem agrees_put_iff (agrees : F.Agrees current entries) :
    F.Agrees (Function.update current (F.owner entry) (some (F.status entry)))
      (F.put entry entries) ↔ F.InOrder current entries entry := by
  constructor
  · intro after
    constructor
    · intro last found later
      obtain ⟨final, latest, same⟩ := after (F.owner entry) (F.status entry) (Function.update_self ..)
      rw [ofOwner_put_self, latest_concat, found] at latest
      simp only [if_neg later] at latest
      cases latest
      exact same
    · intro old there same moved status held
      obtain ⟨final, latest, at_end⟩ := after (F.owner old) status (by
        rw [Function.update_of_ne moved]
        exact held)
      rw [ofOwner_put_other moved.symm] at latest
      exact ⟨final, latest, at_end⟩
  · intro order owner status held
    by_cases own : owner = F.owner entry
    · subst own
      rw [Function.update_self] at held
      cases held
      rw [ofOwner_put_self, latest_concat]
      refine ⟨_, rfl, ?_⟩
      cases found : F.latest (F.ofOwner (F.owner entry) (F.others entry entries)) with
      | none => rfl
      | some last =>
          show F.status (if _ then _ else _) = _
          split
          · rfl
          · exact order.newest last found ‹_›
    · rw [Function.update_of_ne own] at held
      rw [ofOwner_put_other (Ne.symm own)]
      by_cases moved : ∃ old ∈ entries, F.id old = F.id entry ∧ F.owner old = owner
      · obtain ⟨old, there, same, rfl⟩ := moved
        exact order.moved old there same own status held
      · obtain ⟨last, latest, same⟩ := agrees owner status held
        refine ⟨last, ?_, same⟩
        rw [← latest]
        refine congrArg F.latest (filter_others fun old there belongs unchanged => ?_)
        exact moved ⟨old, there, unchanged, of_decide_eq_true belongs⟩

/-- Entries recorded after the cutoff are not known by it. -/
theorem knownBy_put {owner : ο} {cutoff : τ} (later : cutoff < F.recordedAt entry) :
    F.knownBy owner cutoff (F.put entry entries) =
      F.others entry (F.knownBy owner cutoff entries) := by
  unfold Fields.knownBy Fields.put Fields.others
  rw [List.filter_append, List.filter_comm]
  refine (congrArg _ (List.filter_eq_nil_iff.mpr ?_)).trans (List.append_nil _)
  intro last there
  rw [List.mem_singleton.mp there]
  exact fun known => absurd (of_decide_eq_true known).2.2 (not_le.mpr later)

/-- The entry does not hide what was known by the cutoff: none of the known entries is put
again, unless the one before it has the same status. -/
def Fields.Reveals (F : Fields α ι ο τ σ) (owner : ο) (cutoff : τ) (entries : List α) (entry : α) : Prop :=
  ∀ old ∈ F.knownBy owner cutoff entries, F.id old = F.id entry →
    (F.latest (F.others entry (F.knownBy owner cutoff entries))).map F.status =
      F.statusKnownBy owner cutoff entries

theorem statusKnownBy_put_iff {owner : ο} {cutoff : τ} (later : cutoff < F.recordedAt entry) :
    F.statusKnownBy owner cutoff (F.put entry entries) = F.statusKnownBy owner cutoff entries ↔
      F.Reveals owner cutoff entries entry := by
  rw [Fields.statusKnownBy, knownBy_put later]
  refine ⟨fun same _ _ _ => same, fun reveals => ?_⟩
  by_cases again : ∃ old ∈ F.knownBy owner cutoff entries, F.id old = F.id entry
  · obtain ⟨old, there, same⟩ := again
    exact reveals old there same
  · rw [Fields.statusKnownBy, Fields.others, List.filter_eq_self.mpr]
    intro old there
    exact decide_eq_true fun same => again ⟨old, there, same⟩

end Projection
