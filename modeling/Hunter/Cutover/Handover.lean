import Hunter.Cutover.Authority

/-!
What every run of the authority keeps, from no file on. A record that an
operation leaves passes all the checks of the next read. The transfer that it is
about never changes and its evidence only grows. The successor publishes behind a
complete fence and all its gates, and the legacy authority, once disabled, never
publishes again, whatever is rolled back.
-/

namespace Hunter.Cutover

open Fallible

variable {python : Comparison}

/-- What the read of a record checks, and where the successor may be fenced. -/
structure CutoverRecord.Sound (python : Comparison) (record : CutoverRecord) : Prop where
  generation : 1 ≤ record.generation
  texts : ∀ text ∈ [record.implementationSha, record.policySha, record.authorizedBy,
    record.shadowInstalledAt], blank text = false
  bound : ∀ item ∈ record.evidence, record.binds python item = true
  chain : ∀ kind ∈ requiredKinds record.state, ∃ item ∈ record.evidence, item.kind = kind
  fenced : record.state.disabled = true → record.legacyFenceComplete = true
  enabled : record.state.successor = true → record.enabledAt.any (fun text => text != "") = true
  retired : record.newAuthorityFenced = true → record.state.successor = true

/-- The legacy authority is disabled, or the transfer was rolled back and is on hold. -/
def CutoverRecord.HandedOver (record : CutoverRecord) : Prop :=
  record.state.disabled = true ∨ record.rollbackHold = true

/-- What one operation does to a record. -/
structure Follows (python : Comparison) (before after : CutoverRecord) : Prop where
  generation : after.generation = before.generation
  implementationSha : after.implementationSha = before.implementationSha
  policySha : after.policySha = before.policySha
  evidence : before.evidence <+: after.evidence
  sound : after.Sound python
  handedOver : before.HandedOver → after.HandedOver

theorem Follows.refl {record : CutoverRecord} (sound : record.Sound python) :
    Follows python record record :=
  ⟨rfl, rfl, rfl, List.prefix_rfl, sound, id⟩

theorem Follows.trans {first second third : CutoverRecord} (one : Follows python first second)
    (two : Follows python second third) : Follows python first third where
  generation := two.generation.trans one.generation
  implementationSha := two.implementationSha.trans one.implementationSha
  policySha := two.policySha.trans one.policySha
  evidence := one.evidence.trans two.evidence
  sound := two.sound
  handedOver := fun handed => two.handedOver (one.handedOver handed)

theorem CutoverState.disabled_of_successor {state : CutoverState} (h : state.successor = true) :
    state.disabled = true := by
  rw [CutoverState.disabled, h, Bool.or_true]

theorem requiredKinds_mono {first second : CutoverState} (le : first.rank ≤ second.rank) :
    requiredKinds first ⊆ requiredKinds second := by
  refine List.cons_subset_cons _ (List.map_subset _ fun gate inside => ?_)
  obtain ⟨there, reached⟩ := List.mem_filter.mp inside
  exact List.mem_filter.mpr ⟨there, decide_eq_true (le_trans (of_decide_eq_true reached) le)⟩

/-- A step forward asks for no kind of evidence but its own. -/
theorem requiredKinds_next {state target : CutoverState} (step : state.next = some target) :
    ∀ kind ∈ requiredKinds target, kind ∈ requiredKinds state ∨ requiredKind target = some kind := by
  cases state <;> cases step <;> decide

theorem requiredKinds_installed : requiredKinds .shadowInstalled = [.shadowProof] := by decide

theorem disabled_next {state target : CutoverState} (step : state.next = some target) :
    target.disabled = true → target = .legacyAuthorityDisabled ∨ state.disabled = true := by
  cases state <;> cases step <;> decide

theorem successor_next {state target : CutoverState} (step : state.next = some target) :
    target.successor = true → target = .newAuthorityEnabled ∨ state.successor = true := by
  cases state <;> cases step <;> decide

theorem next_disabled {state target : CutoverState} (step : state.next = some target) :
    state.disabled = true → target.successor = true := by
  cases state <;> cases step <;> decide

/-- A sound record passes every check of the read. -/
theorem load_sound {record : CutoverRecord} (sound : record.Sound python) :
    load python (some record) = .ok record := by
  have chain : validatePersistedEvidenceChain python record = .ok () := by
    refine forM_ok.mpr fun kind required => ?_
    obtain ⟨item, inside, same⟩ := sound.chain kind required
    have there : item ∈ record.evidence.filter fun item => item.kind = kind :=
      List.mem_filter.mpr ⟨inside, decide_eq_true same⟩
    cases last : (record.evidence.filter fun item => item.kind = kind).getLast? with
    | none => exact absurd there (List.getLast?_eq_none_iff.mp last ▸ List.not_mem_nil)
    | some other =>
        exact require_of (sound.bound other (List.mem_filter.mp (List.mem_of_getLast? last)).1)
  have disabled (state : record.state = .legacyAuthorityDisabled) :
      record.legacyFenceComplete = true :=
    sound.fenced (state ▸ rfl)
  have ahead (state : record.state.successor = true) : record.legacyFenceComplete = true :=
    sound.fenced (CutoverState.disabled_of_successor state)
  simp only [load, require_of (And.intro sound.generation sound.texts), require_of ahead,
    require_of disabled, require_of sound.enabled, chain, ok_bind, pure_eq_ok]

theorem requireBound_ok {record : CutoverRecord} {evidence : Option CutoverEvidence}
    {kind : EvidenceKind} {proof : CutoverEvidence}
    (done : requireBound python record evidence kind = .ok proof) :
    evidence = some proof ∧ proof.kind = kind ∧ record.binds python proof = true ∧
      blank proof.producedAt = false := by
  cases evidence with
  | none => cases done
  | some item =>
      simp only [requireBound, validateEvidenceIdentity, bind_ok, exists_unit, require_ok, pure_eq_ok,
        Except.ok.injEq] at done
      obtain ⟨texts, same, binds, rfl⟩ := done
      exact ⟨rfl, same, binds, texts _ (by simp)⟩

theorem ne_empty_of_given {text : String} (given : blank text = false) : (text != "") = true := by
  rw [bne_iff_ne]
  rintro rfl
  exact absurd given (by decide)

section

variable {current after : CutoverRecord}

/-- Evidence of the same transfer may be added anywhere. -/
theorem CutoverRecord.Sound.bound_append (sound : current.Sound python) {proof : CutoverEvidence}
    (binds : current.binds python proof = true) :
    ∀ item ∈ current.evidence ++ [proof], current.binds python item = true := by
  intro item inside
  rcases List.mem_append.mp inside with before | last
  · exact sound.bound item before
  · exact List.mem_singleton.mp last ▸ binds

theorem CutoverRecord.Sound.chain_append (sound : current.Sound python) (proof : CutoverEvidence) :
    ∀ kind ∈ requiredKinds current.state, ∃ item ∈ current.evidence ++ [proof], item.kind = kind := by
  intro kind required
  obtain ⟨item, inside, same⟩ := sound.chain kind required
  exact ⟨item, List.mem_append_left _ inside, same⟩

theorem binds_congr {before after : CutoverRecord} (generation : after.generation = before.generation)
    (implementationSha : after.implementationSha = before.implementationSha)
    (policySha : after.policySha = before.policySha) (item : CutoverEvidence) :
    after.binds python item = before.binds python item := by
  rw [CutoverRecord.binds, CutoverRecord.binds, generation, implementationSha, policySha]

theorem installed_sound {evidence : CutoverEvidence} {record : CutoverRecord}
    (identity : validateEvidenceIdentity evidence = .ok ()) (kind : evidence.kind = .shadowProof)
    (made : installed evidence = some record) : record.Sound python := by
  have dated : blank evidence.producedAt = false := require_ok.mp identity _ (by simp)
  unfold installed at made
  split at made
  · rename_i generation implementationSha policySha authorizedBy first second third fourth
    split at made
    · rename_i positive
      cases made
      have text {value : Option Json} {given : String} (read : givenText value = some given) :
          value = some (.str given) ∧ blank given = false := by
        unfold givenText at read
        split at read
        · rename_i text
          by_cases empty : blank text = true
          · rw [if_pos empty] at read
            cases read
          · rw [if_neg empty] at read
            cases read
            exact ⟨rfl, Bool.eq_false_iff.mpr empty⟩
        · cases read
      have number : equalsInt python (evidence.get "generation") generation = true := by
        unfold givenGeneration at first
        split at first
        · rename_i value found
          cases first
          simp [equalsInt, found]
        · rename_i value found
          cases first
          simp [equalsInt, found]
        · cases first
      have binds (item : CutoverEvidence) (inside : item ∈ [evidence]) :
          (equalsInt python (item.get "generation") generation &&
            equalsText (item.get "implementation_sha") implementationSha &&
            equalsText (item.get "policy_sha") policySha) = true := by
        cases List.mem_singleton.mp inside
        rw [number, (text second).1, (text third).1]
        simp [equalsText]
      refine ⟨positive, ?_, binds, ?_, by rintro ⟨⟩, by rintro ⟨⟩, by rintro ⟨⟩⟩
      · simp only [List.mem_cons, List.not_mem_nil, or_false, forall_eq_or_imp, forall_eq]
        exact ⟨(text second).2, (text third).2, (text fourth).2, dated⟩
      · intro required there
        have same : required = .shadowProof := List.mem_singleton.mp (requiredKinds_installed ▸ there)
        exact ⟨evidence, List.mem_singleton_self _, kind.trans same.symm⟩
    · cases made
  · cases made

@[simp] theorem enter_state (record : CutoverRecord) (target : CutoverState)
    (evidence : Option CutoverEvidence) : (record.enter target evidence).state = target := by
  unfold CutoverRecord.enter
  split <;> rfl

@[simp] theorem enter_evidence (record : CutoverRecord) (target : CutoverState)
    (evidence : Option CutoverEvidence) :
    (record.enter target evidence).evidence = record.evidence := by
  unfold CutoverRecord.enter
  split <;> rfl

/-- Everything but the state, its time, the fence of the successor and the hold stays. -/
theorem enter_frame (record : CutoverRecord) (target : CutoverState)
    (evidence : Option CutoverEvidence) :
    (record.enter target evidence).generation = record.generation ∧
      (record.enter target evidence).implementationSha = record.implementationSha ∧
      (record.enter target evidence).policySha = record.policySha ∧
      (record.enter target evidence).authorizedBy = record.authorizedBy ∧
      (record.enter target evidence).shadowInstalledAt = record.shadowInstalledAt ∧
      (record.enter target evidence).legacyFenceComplete = record.legacyFenceComplete := by
  unfold CutoverRecord.enter
  split <;> exact ⟨rfl, rfl, rfl, rfl, rfl, rfl⟩

/-- What a transition needs and what it adds to the evidence. -/
theorem admission_ok {target : CutoverState} {evidence : Option CutoverEvidence}
    (done : admission python current target evidence = .ok after) :
    (target = .legacyAuthorityDisabled → current.legacyFenceComplete = true) ∧
      (requiredKind target = none ∧ after = current ∨
        ∃ proof, evidence = some proof ∧ requiredKind target = some proof.kind ∧
          current.binds python proof = true ∧ blank proof.producedAt = false ∧
          after = { current with evidence := current.evidence ++ [proof] }) := by
  unfold admission at done
  split at done
  · rename_i disabled
    obtain ⟨complete, done⟩ := require_bind_ok.mp done
    exact ⟨fun _ => complete, Or.inl ⟨disabled ▸ rfl, (Except.ok.inj done).symm⟩⟩
  · rename_i other
    refine ⟨fun disabled => absurd disabled other, ?_⟩
    split at done
    · rename_i complete
      obtain ⟨-, done⟩ := require_bind_ok.mp done
      exact Or.inl ⟨complete ▸ rfl, (Except.ok.inj done).symm⟩
    · split at done
      · rename_i free
        exact Or.inl ⟨free, (Except.ok.inj done).symm⟩
      · rename_i kind gate
        obtain ⟨proof, bound, done⟩ := bind_ok.mp done
        obtain ⟨given, same, binds, dated⟩ := requireBound_ok bound
        obtain ⟨-, done⟩ := require_bind_ok.mp done
        obtain ⟨-, done⟩ := require_bind_ok.mp done
        obtain ⟨-, done⟩ := require_bind_ok.mp done
        exact Or.inr ⟨proof, given, same ▸ gate, binds, dated, (Except.ok.inj done).symm⟩

/-- A transition to a new state leaves a sound record, one step ahead. -/
theorem enter_follows {target : CutoverState} {evidence : Option CutoverEvidence}
    (sound : current.Sound python) (step : current.state.next = some target)
    (admits : admission python current target evidence = .ok after) :
    Follows python current (after.enter target evidence) := by
  obtain ⟨fence, added⟩ := admission_ok admits
  have kept : after.generation = current.generation ∧
      after.implementationSha = current.implementationSha ∧ after.policySha = current.policySha ∧
      after.authorizedBy = current.authorizedBy ∧
      after.shadowInstalledAt = current.shadowInstalledAt ∧
      after.legacyFenceComplete = current.legacyFenceComplete ∧
      after.enabledAt = current.enabledAt ∧ after.newAuthorityFenced = current.newAuthorityFenced ∧
      after.rollbackHold = current.rollbackHold := by
    rcases added with ⟨-, rfl⟩ | ⟨_, -, -, -, -, rfl⟩
    · exact ⟨rfl, rfl, rfl, rfl, rfl, rfl, rfl, rfl, rfl⟩
    · exact ⟨rfl, rfl, rfl, rfl, rfl, rfl, rfl, rfl, rfl⟩
  have grows : current.evidence <+: after.evidence := by
    rcases added with ⟨-, rfl⟩ | ⟨proof, -, -, -, -, rfl⟩
    · exact List.prefix_rfl
    · exact List.prefix_append _ _
  have bound : ∀ item ∈ after.evidence, current.binds python item = true := by
    rcases added with ⟨-, rfl⟩ | ⟨proof, -, -, binds, -, rfl⟩
    · exact sound.bound
    · exact sound.bound_append binds
  have chain : ∀ kind ∈ requiredKinds target, ∃ item ∈ after.evidence, item.kind = kind := by
    intro kind required
    rcases requiredKinds_next step kind required with before | gate
    · obtain ⟨item, inside, same⟩ := sound.chain kind before
      exact ⟨item, grows.subset inside, same⟩
    · rcases added with ⟨free, -⟩ | ⟨proof, -, same, -, -, rfl⟩
      · cases free.symm.trans gate
      · exact ⟨proof, List.mem_append_right _ (List.mem_singleton_self _),
          Option.some.inj (same.symm.trans gate)⟩
  obtain ⟨generation, implementationSha, policySha, authorizedBy, installedAt, complete, enabledAt,
    retired, hold⟩ := kept
  obtain ⟨generation', implementationSha', policySha', authorizedBy', installedAt', complete'⟩ :=
    enter_frame after target evidence
  refine ⟨generation'.trans generation, implementationSha'.trans implementationSha,
    policySha'.trans policySha, (enter_evidence after target evidence).symm ▸ grows, ?_, ?_⟩
  · constructor
    · rw [generation', generation]
      exact sound.generation
    · rw [implementationSha', implementationSha, policySha', policySha, authorizedBy', authorizedBy,
        installedAt', installedAt]
      exact sound.texts
    · intro item inside
      rw [binds_congr (generation'.trans generation) (implementationSha'.trans implementationSha)
        (policySha'.trans policySha)]
      exact bound item (enter_evidence after target evidence ▸ inside)
    · rw [enter_state, enter_evidence]
      exact chain
    · rw [enter_state, complete', complete]
      intro disabled
      rcases disabled_next step disabled with here | before
      · exact fence here
      · exact sound.fenced before
    · rw [enter_state]
      intro ahead
      by_cases enabling : target = .newAuthorityEnabled
      · rcases added with ⟨free, -⟩ | ⟨proof, given, -, -, dated, -⟩
        · rw [enabling] at free
          exact absurd free (by decide)
        · simp only [CutoverRecord.enter, if_pos enabling, given, Option.map_some, Option.any_some]
          exact ne_empty_of_given dated
      · simp only [CutoverRecord.enter, if_neg enabling, enabledAt]
        exact sound.enabled ((successor_next step ahead).resolve_left enabling)
    · rw [enter_state]
      intro fenced
      by_cases enabling : target = .newAuthorityEnabled
      · exact enabling ▸ rfl
      · simp only [CutoverRecord.enter, if_neg enabling, retired] at fenced
        exact next_disabled step (CutoverState.disabled_of_successor (sound.retired fenced))
  · intro handed
    unfold CutoverRecord.HandedOver
    rw [enter_state]
    rcases handed with disabled | held
    · exact Or.inl (CutoverState.disabled_of_successor (next_disabled step disabled))
    · by_cases enabling : target = .newAuthorityEnabled
      · exact Or.inl (enabling ▸ rfl)
      · simp only [CutoverRecord.enter, if_neg enabling, hold]
        exact Or.inr held

/-- A transition leaves the record as it is or takes the next step. -/
theorem transition_ok {target : CutoverState} {evidence : Option CutoverEvidence}
    (sound : current.Sound python)
    (done : transition python (some current) target evidence = .ok after) :
    after = current ∨ current.state.next = some target ∧
      ∃ admitted, admission python current target evidence = .ok admitted ∧
        after = admitted.enter target evidence := by
  simp only [transition, load_sound sound, ok_bind] at done
  split at done
  · left
    split at done
    · exact (Except.ok.inj done).symm
    · simp only [bind_ok, exists_unit, pure_eq_ok, Except.ok.injEq] at done
      obtain ⟨_, -, -, same⟩ := done
      exact same.symm
  · right
    obtain ⟨step, done⟩ := require_bind_ok.mp done
    obtain ⟨admitted, admits, done⟩ := bind_ok.mp done
    exact ⟨step, admitted, admits, (Except.ok.inj done).symm⟩

theorem transition_follows {target : CutoverState} {evidence : Option CutoverEvidence}
    (sound : current.Sound python)
    (done : transition python (some current) target evidence = .ok after) :
    Follows python current after := by
  rcases transition_ok sound done with rfl | ⟨step, admitted, admits, rfl⟩
  · exact Follows.refl sound
  · exact enter_follows sound step admits

/-- Raising flags of the fence keeps a fence that is complete. -/
theorem fenceLegacy_follows {evidence : CutoverEvidence} {a b c d : Bool}
    (sound : current.Sound python)
    (done : fenceLegacy python (some current) evidence a b c d = .ok after) :
    Follows python current after := by
  simp only [fenceLegacy, load_sound sound, ok_bind] at done
  obtain ⟨proof, bound, done⟩ := bind_ok.mp done
  obtain ⟨given, -, binds, -⟩ := requireBound_ok bound
  cases given
  cases Except.ok.inj done
  refine ⟨rfl, rfl, rfl, ?_, ⟨sound.generation, sound.texts, ?_, ?_, ?_, sound.enabled, sound.retired⟩,
    id⟩
  · dsimp only
    split
    · exact List.prefix_rfl
    · exact List.prefix_append _ _
  · dsimp only
    split
    · exact sound.bound
    · exact sound.bound_append binds
  · dsimp only
    split
    · exact sound.chain
    · exact sound.chain_append evidence
  · intro disabled
    have complete := sound.fenced disabled
    simp only [CutoverRecord.legacyFenceComplete, Bool.and_eq_true] at complete ⊢
    obtain ⟨⟨⟨⟨first, second⟩, third⟩, fourth⟩, -⟩ := complete
    simp [first, second, third, fourth]

theorem fenceSuccessor_follows {evidence : CutoverEvidence} (sound : current.Sound python)
    (done : fenceSuccessor python (some current) evidence = .ok after) :
    Follows python current after := by
  simp only [fenceSuccessor, load_sound sound, ok_bind] at done
  obtain ⟨proof, bound, done⟩ := bind_ok.mp done
  obtain ⟨-, -, binds, -⟩ := requireBound_ok bound
  split at done
  · rename_i state
    cases Except.ok.inj done
    refine ⟨rfl, rfl, rfl, List.prefix_append _ _, ⟨sound.generation, sound.texts,
      sound.bound_append binds, sound.chain_append proof, sound.fenced, sound.enabled, fun _ => ?_⟩, id⟩
    simp only [List.mem_cons, List.not_mem_nil, or_false] at state
    rcases state with here | here | here <;> exact here ▸ rfl
  · cases Except.ok.inj done
    exact Follows.refl sound

/-- A rollback goes back to a candidate with an empty fence, on hold. -/
theorem rollback_follows {evidence : CutoverEvidence} (sound : current.Sound python)
    (done : rollback python (some current) evidence = .ok after) : Follows python current after := by
  simp only [rollback, load_sound sound, ok_bind] at done
  obtain ⟨proof, bound, done⟩ := bind_ok.mp done
  obtain ⟨-, -, binds, -⟩ := requireBound_ok bound
  obtain ⟨fenced, done⟩ := require_bind_ok.mp done
  cases Except.ok.inj done
  have ahead : CutoverState.cutoverCandidate.rank ≤ current.state.rank := by
    have successor := sound.retired fenced
    revert successor
    cases current.state <;> decide
  refine ⟨rfl, rfl, rfl, List.prefix_append _ _, ⟨sound.generation, sound.texts,
    sound.bound_append binds, fun kind required => ?_, by rintro ⟨⟩, by rintro ⟨⟩, by rintro ⟨⟩⟩,
    fun _ => Or.inr rfl⟩
  exact sound.chain_append proof kind (requiredKinds_mono ahead required)

theorem result_follows {operation : Operation} (sound : current.Sound python)
    (done : operation.result python (some current) = .ok after) : Follows python current after := by
  cases operation with
  | installShadow evidence =>
      simp only [Operation.result, installShadow, load_sound sound, ok_bind] at done
      obtain ⟨-, done⟩ := require_bind_ok.mp done
      exact Except.ok.inj done ▸ Follows.refl sound
  | transition target evidence => exact transition_follows sound done
  | fenceLegacy evidence a b c d => exact fenceLegacy_follows sound done
  | fenceSuccessor evidence => exact fenceSuccessor_follows sound done
  | rollback evidence => exact rollback_follows sound done

/-- A hold is released only by fresh evidence of an authorization. -/
theorem result_hold {operation : Operation} (sound : current.Sound python)
    (held : current.rollbackHold = true)
    (done : operation.result python (some current) = .ok after) :
    after.rollbackHold = true ∨ ∃ item, current.evidence ++ [item] <+: after.evidence ∧
      item.kind = .transferAuthorized := by
  cases operation with
  | installShadow evidence =>
      simp only [Operation.result, installShadow, load_sound sound, ok_bind] at done
      obtain ⟨-, done⟩ := require_bind_ok.mp done
      exact Or.inl (Except.ok.inj done ▸ held)
  | transition target evidence =>
      rcases transition_ok sound done with rfl | ⟨-, admitted, admits, rfl⟩
      · exact Or.inl held
      · obtain ⟨-, ⟨free, same⟩ | ⟨proof, -, gate, -, -, same⟩⟩ := admission_ok admits
        · have other : target ≠ .newAuthorityEnabled := by
            rintro rfl
            exact absurd free (by decide)
          simp only [CutoverRecord.enter, if_neg other, same]
          exact Or.inl held
        · by_cases enabling : target = .newAuthorityEnabled
          · refine Or.inr ⟨proof, ?_, Option.some.inj (gate.symm.trans (enabling ▸ rfl))⟩
            rw [enter_evidence, same]
          · simp only [CutoverRecord.enter, if_neg enabling, same]
            exact Or.inl held
  | fenceLegacy evidence a b c d =>
      simp only [Operation.result, fenceLegacy, load_sound sound, ok_bind] at done
      obtain ⟨proof, -, done⟩ := bind_ok.mp done
      cases Except.ok.inj done
      exact Or.inl held
  | fenceSuccessor evidence =>
      simp only [Operation.result, fenceSuccessor, load_sound sound, ok_bind] at done
      obtain ⟨proof, -, done⟩ := bind_ok.mp done
      split at done <;> cases Except.ok.inj done <;> exact Or.inl held
  | rollback evidence =>
      simp only [Operation.result, rollback, load_sound sound, ok_bind] at done
      obtain ⟨proof, -, done⟩ := bind_ok.mp done
      obtain ⟨-, done⟩ := require_bind_ok.mp done
      cases Except.ok.inj done
      exact Or.inl rfl

/-- Without a file only an installation succeeds. -/
theorem result_none {operation : Operation} (done : operation.result python none = .ok after) :
    after.Sound python := by
  cases operation with
  | installShadow evidence =>
      obtain ⟨identity, done⟩ := check_ok.mp done
      obtain ⟨kind, done⟩ := require_bind_ok.mp done
      split at done
      · rename_i made
        exact Except.ok.inj done ▸ installed_sound identity kind made
      · cases done
  | transition target evidence => cases done
  | fenceLegacy evidence a b c d => cases done
  | fenceSuccessor evidence => cases done
  | rollback evidence => cases done

end

theorem perform_sound {file : Option CutoverRecord} (sound : ∀ record ∈ file, record.Sound python)
    (operation : Operation) : ∀ record ∈ perform python file operation, record.Sound python := by
  intro record there
  unfold perform at there
  split at there
  · rename_i after done
    cases Option.some.inj there
    cases file with
    | none => exact result_none done
    | some current => exact (result_follows (sound current rfl) done).sound
  · exact sound record there

theorem performAll_sound {file : Option CutoverRecord} (sound : ∀ record ∈ file, record.Sound python)
    (operations : List Operation) :
    ∀ record ∈ performAll python file operations, record.Sound python := by
  induction operations generalizing file with
  | nil => exact sound
  | cons operation operations ih => exact ih (perform_sound sound operation)

theorem performAll_ok {file : Option CutoverRecord} {operation : Operation} {after : CutoverRecord}
    (done : operation.result python file = .ok after) (operations : List Operation) :
    performAll python file (operation :: operations) = performAll python (some after) operations := by
  rw [performAll, List.foldl_cons, perform, done]
  rfl

theorem performAll_error {file : Option CutoverRecord} {operation : Operation} {exn : String}
    (done : operation.result python file = .error exn) (operations : List Operation) :
    performAll python file (operation :: operations) = performAll python file operations := by
  rw [performAll, List.foldl_cons, perform, done]
  rfl

theorem performAll_append {operations : List Operation} {record : CutoverRecord}
    (reached : performAll python none operations = some record) (later : List Operation) :
    performAll python none (operations ++ later) = performAll python (some record) later := by
  rw [performAll, List.foldl_append]
  exact congrArg (fun file => performAll python file later) reached

/-- Once there is a record every later file holds one that follows it. -/
theorem performAll_follows {current : CutoverRecord} (sound : current.Sound python)
    (operations : List Operation) :
    ∃ after, performAll python (some current) operations = some after ∧ Follows python current after := by
  induction operations generalizing current with
  | nil => exact ⟨current, rfl, Follows.refl sound⟩
  | cons operation operations ih =>
      cases done : operation.result python (some current) with
      | ok next =>
          have first := result_follows sound done
          obtain ⟨after, rest, follows⟩ := ih first.sound
          exact ⟨after, (performAll_ok done operations).trans rest, first.trans follows⟩
      | error exn =>
          obtain ⟨after, rest, follows⟩ := ih sound
          exact ⟨after, (performAll_error done operations).trans rest, follows⟩

theorem reached_sound {operations : List Operation} {record : CutoverRecord}
    (reached : performAll python none operations = some record) : record.Sound python :=
  performAll_sound (fun _ absent => absurd absent (Option.not_mem_none _)) operations record reached

theorem publicationAllowed_sound {record : CutoverRecord} (sound : record.Sound python)
    (owner : PublicationOwner) (generation : Int) :
    publicationAllowed python (some record) owner generation =
      .ok (if generation ≠ record.generation ∨ record.rollbackHold = true then false
        else if record.state.successor then owner = .new && !record.newAuthorityFenced
        else if record.state = .legacyAuthorityDisabled then false else owner = .legacy) := by
  rw [publicationAllowed, load_sound sound, ok_bind]
  split_ifs <;> rfl

theorem legacy_refused {record : CutoverRecord} (sound : record.Sound python)
    (handed : record.HandedOver) (generation : Int) :
    publicationAllowed python (some record) .legacy generation = .ok false := by
  rw [publicationAllowed_sound sound]
  rcases handed with disabled | held
  · rw [CutoverState.disabled, Bool.or_eq_true, beq_iff_eq] at disabled
    rcases disabled with here | ahead
    · simp [here]
    · simp [ahead]
  · rw [if_pos (Or.inr held)]

/-- No operation ever leaves a record that the next read refuses, and a record that
is reached holds bound evidence for every gate it has passed. -/
theorem cutover_readable (operations : List Operation) {record : CutoverRecord}
    (reached : performAll python none operations = some record) :
    load python (some record) = .ok record ∧
      (∀ kind ∈ requiredKinds record.state, ∃ item ∈ record.evidence, item.kind = kind) ∧
      ∀ item ∈ record.evidence, record.binds python item = true :=
  ⟨load_sound (reached_sound reached), (reached_sound reached).chain, (reached_sound reached).bound⟩

/-- The successor publishes only for the generation of its transfer, behind a complete
fence, with the evidence of every gate up to the authorization, and then alone. -/
theorem successor_gated (operations : List Operation) {record : CutoverRecord}
    (reached : performAll python none operations = some record) {generation : Int}
    (allowed : publicationAllowed python (some record) .new generation = .ok true) :
    generation = record.generation ∧ record.legacyFenceComplete = true ∧
      (∀ kind ∈ [EvidenceKind.shadowProof, .replayEquality, .runtimeParity, .fencingVerified,
        .transferAuthorized], ∃ item ∈ record.evidence, item.kind = kind ∧
          record.binds python item = true) ∧
      ∀ other, publicationAllowed python (some record) .legacy other = .ok false := by
  have sound := reached_sound reached
  rw [publicationAllowed_sound sound, Except.ok.injEq] at allowed
  have current : ¬(generation ≠ record.generation ∨ record.rollbackHold = true) := by
    intro other
    rw [if_pos other] at allowed
    cases allowed
  have ahead : record.state.successor = true := by
    by_contra behind
    rw [if_neg current, if_neg behind] at allowed
    split at allowed <;> cases allowed
  have disabled := CutoverState.disabled_of_successor ahead
  refine ⟨not_not.mp fun other => current (Or.inl other), sound.fenced disabled, ?_,
    legacy_refused sound (Or.inl disabled)⟩
  intro kind gate
  have passed : [EvidenceKind.shadowProof, .replayEquality, .runtimeParity, .fencingVerified,
      .transferAuthorized] ⊆ requiredKinds record.state := by
    revert ahead
    cases record.state <;> decide
  obtain ⟨item, inside, same⟩ := sound.chain kind (passed gate)
  exact ⟨item, inside, same, sound.bound item inside⟩

/-- The legacy authority, once disabled, never publishes again in any continuation,
with rollbacks or without, and the transfer stays the one that was installed. -/
theorem handover_final (operations later : List Operation) {record : CutoverRecord}
    (reached : performAll python none operations = some record)
    (disabled : record.state.disabled = true) :
    ∃ after, performAll python none (operations ++ later) = some after ∧
      (∀ generation, publicationAllowed python (some after) .legacy generation = .ok false) ∧
      after.generation = record.generation ∧ after.implementationSha = record.implementationSha ∧
      after.policySha = record.policySha ∧ record.evidence <+: after.evidence := by
  obtain ⟨after, rest, follows⟩ := performAll_follows (reached_sound reached) later
  exact ⟨after, (performAll_append reached later).trans rest,
    legacy_refused follows.sound (follows.handedOver (Or.inl disabled)),
    follows.generation, follows.implementationSha, follows.policySha, follows.evidence⟩

/-- A record on hold stays on hold until an authorization is added to its evidence. -/
theorem performAll_hold {current : CutoverRecord} (sound : current.Sound python)
    (held : current.rollbackHold = true) (operations : List Operation) :
    ∃ after, performAll python (some current) operations = some after ∧ after.Sound python ∧
      (after.rollbackHold = true ∨ ∃ front item, current.evidence <+: front ∧
        front ++ [item] <+: after.evidence ∧ item.kind = .transferAuthorized) := by
  induction operations generalizing current with
  | nil => exact ⟨current, rfl, sound, Or.inl held⟩
  | cons operation operations ih =>
      cases done : operation.result python (some current) with
      | ok next =>
          have first := result_follows sound done
          rw [performAll_ok done]
          rcases result_hold sound held done with still | ⟨item, added, authorized⟩
          · obtain ⟨after, rest, sound, held | ⟨front, item, before, added, authorized⟩⟩ :=
              ih first.sound still
            · exact ⟨after, rest, sound, Or.inl held⟩
            · exact ⟨after, rest, sound,
                Or.inr ⟨front, item, first.evidence.trans before, added, authorized⟩⟩
          · obtain ⟨after, rest, follows⟩ := performAll_follows first.sound operations
            exact ⟨after, rest, follows.sound, Or.inr
              ⟨current.evidence, item, List.prefix_rfl, added.trans follows.evidence, authorized⟩⟩
      | error exn =>
          obtain ⟨after, rest, kept⟩ := ih sound held
          exact ⟨after, (performAll_error done operations).trans rest, kept⟩

/-- After a rollback nobody publishes, in any continuation, until one more entry of
the authorizing kind has been added to the evidence. It need not be a new one: the
evidence of the transfer that was rolled back may be added again. -/
theorem rolledBack_silent (operations later : List Operation) {record : CutoverRecord}
    (reached : performAll python none operations = some record)
    (held : record.rollbackHold = true) :
    ∃ after, performAll python none (operations ++ later) = some after ∧
      ((∀ owner generation, publicationAllowed python (some after) owner generation = .ok false) ∨
        ∃ front item, record.evidence <+: front ∧ front ++ [item] <+: after.evidence ∧
          item.kind = .transferAuthorized) := by
  obtain ⟨after, rest, sound, kept⟩ := performAll_hold (reached_sound reached) held later
  refine ⟨after, (performAll_append reached later).trans rest,
    kept.imp_left fun still owner generation => ?_⟩
  rw [publicationAllowed_sound sound, if_pos (Or.inr still)]

/-- No payload below holds a float. -/
def samplePython : Comparison := ⟨fun _ _ => false, fun left right => left == right⟩

def sampleProof (kind : EvidenceKind) : CutoverEvidence where
  kind
  sha256 := "digest"
  producedAt := "2026-01-01T00:00:00Z"
  producedBy := "operator"
  payload := [("generation", .int 1), ("implementation_sha", .str "commit"),
    ("policy_sha", .str "policy"), ("authorized_by", .str "owner"),
    ("transfer_authorized", .bool true), ("consumers_migrated", .bool true),
    ("consumer_generation", .int 1)]

/-- A transfer, up to the successor being enabled. -/
def sampleTransfer : List Operation :=
  [.installShadow (sampleProof .shadowProof),
    .transition .historicalReplayVerified (some (sampleProof .replayEquality)),
    .transition .shadowRuntimeVerified (some (sampleProof .runtimeParity)),
    .fenceLegacy (sampleProof .fencingVerified) true true true true,
    .transition .cutoverCandidate (some (sampleProof .fencingVerified)),
    .transition .legacyAuthorityDisabled none,
    .transition .newAuthorityEnabled (some (sampleProof .transferAuthorized))]

def sampleFallback : List Operation :=
  [.fenceSuccessor (sampleProof .rollbackExcluded), .rollback (sampleProof .transferAuthorized)]

/-- The transfer, rolled back. -/
def sampleRollback : List Operation := sampleTransfer ++ sampleFallback

theorem sample_enabled : ∃ record, performAll samplePython none sampleTransfer = some record ∧
    record.generation = 1 ∧ record.rollbackHold = false ∧ record.newAuthorityFenced = false ∧
      record.state = .newAuthorityEnabled := by
  have reached : (performAll samplePython none sampleTransfer).any (fun record =>
      record.generation == 1 && !record.rollbackHold && !record.newAuthorityFenced &&
        record.state == .newAuthorityEnabled) = true := by decide
  obtain ⟨record, there, facts⟩ := (Option.any_eq_true _ _).mp reached
  simp only [Bool.and_eq_true, Bool.not_eq_true', beq_iff_eq] at facts
  exact ⟨record, there, facts.1.1.1, facts.1.1.2, facts.1.2, facts.2⟩

/-- The fence is installed again and the legacy authority disabled, but nothing
authorizes the successor. -/
def sampleOnHold : List Operation :=
  [.fenceLegacy (sampleProof .fencingVerified) true true true true,
    .transition .legacyAuthorityDisabled none,
    .transition .newAuthorityEnabled none]

theorem sample_held : ∃ record, performAll samplePython none sampleRollback = some record ∧
    record.rollbackHold = true ∧ record.evidence.length = 8 := by
  have reached : (performAll samplePython none sampleRollback).any
      (fun record => record.rollbackHold && record.evidence.length == 8) = true := by decide
  obtain ⟨record, there, facts⟩ := (Option.any_eq_true _ _).mp reached
  rw [Bool.and_eq_true, beq_iff_eq] at facts
  exact ⟨record, there, facts⟩

theorem sample_onHold : (performAll samplePython none (sampleRollback ++ sampleOnHold)).map
    (fun record => (record.state, record.evidence.length)) = some (.legacyAuthorityDisabled, 8) := by
  decide

theorem cutover_readable_sample : ∃ record,
    performAll samplePython none sampleTransfer = some record ∧
      record.state = .newAuthorityEnabled ∧ load samplePython (some record) = .ok record ∧
      ∃ item ∈ record.evidence, item.kind = .transferAuthorized := by
  obtain ⟨record, reached, -, -, -, state⟩ := sample_enabled
  obtain ⟨read, chain, -⟩ := cutover_readable sampleTransfer reached
  exact ⟨record, reached, state, read, chain _ (state ▸ by decide)⟩

theorem successor_gated_sample : ∃ record, performAll samplePython none sampleTransfer = some record ∧
    record.legacyFenceComplete = true ∧
      ∀ other, publicationAllowed samplePython (some record) .legacy other = .ok false := by
  obtain ⟨record, reached, generation, held, fenced, state⟩ := sample_enabled
  have allowed : publicationAllowed samplePython (some record) .new 1 = .ok true := by
    rw [publicationAllowed_sound (reached_sound reached), generation, held, fenced, state]
    rfl
  obtain ⟨-, complete, -, alone⟩ := successor_gated sampleTransfer reached allowed
  exact ⟨record, reached, complete, alone⟩

/-- The transfer is rolled back and put on hold. -/
theorem handover_final_sample : ∃ record after,
    performAll samplePython none sampleTransfer = some record ∧
      performAll samplePython none (sampleTransfer ++ sampleFallback) = some after ∧
      after.rollbackHold = true ∧ record.evidence <+: after.evidence ∧
      ∀ generation, publicationAllowed samplePython (some after) .legacy generation = .ok false := by
  obtain ⟨record, reached, -, -, -, state⟩ := sample_enabled
  obtain ⟨held, there, onHold, -⟩ := sample_held
  obtain ⟨after, rest, refused, -, -, -, kept⟩ :=
    handover_final sampleTransfer sampleFallback reached (state ▸ rfl)
  cases there.symm.trans rest
  exact ⟨record, held, reached, rest, onHold, kept, refused⟩

theorem rolledBack_silent_sample : ∃ after,
    performAll samplePython none (sampleRollback ++ sampleOnHold) = some after ∧
      after.state = .legacyAuthorityDisabled ∧
      ∀ owner generation, publicationAllowed samplePython (some after) owner generation = .ok false := by
  obtain ⟨record, reached, held, before⟩ := sample_held
  obtain ⟨after, rest, silent⟩ := rolledBack_silent sampleRollback sampleOnHold reached held
  have facts := sample_onHold
  rw [rest, Option.map_some, Option.some.injEq, Prod.mk.injEq] at facts
  refine ⟨after, rest, facts.1, silent.resolve_right ?_⟩
  rintro ⟨front, item, kept, added, -⟩
  have longer := added.length_le
  rw [List.length_append, List.length_singleton] at longer
  have := kept.length_le
  omega

end Hunter.Cutover
