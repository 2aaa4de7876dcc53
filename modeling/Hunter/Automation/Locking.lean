import Hunter.Automation.Runner
import Hunter.Machine.Run

/-!
Who holds the lock of a job. A run that prevents overlapping holds it from its
acquisition to its own release. Releasing goes by the key of the job, so a run that
holds no lock of its own, and a cancellation or a recovery, may release a lock that
another run holds; in every run without such a step the locks exclude each other.
-/

namespace Hunter.Automation

open Calendar Execution Fallible

/-- The call is between its acquisition of the lock and its own release. -/
def Holds (s : System) (call : Nat) (flight : Flight) : Prop :=
  s.flights call = some flight ∧ flight.holding = true

def Exclusive (s : System) : Prop :=
  ∀ ⦃first second f g⦄, Holds s first f → Holds s second g → f.lock = g.lock → first = second

structure Secure (s : System) : Prop where
  exclusive : Exclusive s
  backed : ∀ {call flight}, Holds s call flight → flight.lock ∈ s.locks
  idle : ∀ {call flight}, s.flights call = some flight → flight.phase = .scheduled →
    flight.holding = false

theorem secure_start (records : List AutomationRun) : Secure (System.start records) where
  exclusive _ _ _ _ holds := absurd holds.1.symm (Option.some_ne_none _)
  backed holds := absurd holds.1.symm (Option.some_ne_none _)
  idle present := absurd present.symm (Option.some_ne_none _)

/-- The cancellation of a run goes through. -/
def Cancels (s : System) (runner : RunnerId) (run : AutomationRun) (now : Moment) : Prop :=
  ∃ cancelled records, transition run .cancelled now none none = .ok cancelled ∧
    s.saveRun runner cancelled = .ok records

/-- The event releases a lock on account of a run, whoever holds it. -/
def Frees (s : System) : Event → Nat × String → String → Prop
  | .cancel runner run job now, lock, owner =>
      Cancels s runner run now ∧ lock = (runner.process, job.lockKey) ∧ owner = run.automationRunId
  | .cancelById runner run jobs now, lock, owner =>
      Cancels s runner run now ∧ owner = run.automationRunId ∧
        ∃ job ∈ jobFor jobs run, lock = (runner.process, job.lockKey)
  | .recover runner run jobs _, lock, owner =>
      run.status ≠ .scheduled ∧ owner = run.automationRunId ∧
        ∃ job ∈ jobFor jobs run, lock = (runner.process, job.lockKey)
  | _, _, _ => False

/-- No lock is released that another run holds: a call without a lock of its own does not
end, and no other run is cancelled or recovered, while the lock of its job is held. -/
structure Spares (s : System) (event : Event) : Prop where
  release : ∀ {call flight}, event = .release call → s.flights call = some flight →
    flight.holding = false → ∀ {other g}, Holds s other g → g.lock ≠ flight.lock
  frees : ∀ {lock owner}, Frees s event lock owner → ∀ {call flight}, Holds s call flight →
    flight.lock = lock → flight.current.automationRunId = owner

/-- The own end of a call: its completion, its cancellation or recovery, or the loss of
its process. -/
def OwnEnd (s : System) (event : Event) (call : Nat) (flight : Flight) : Prop :=
  event = .release call ∨ Frees s event flight.lock flight.current.automationRunId ∨
    event = .restart flight.runner.process

/-- A call goes on with the lock it has. -/
structure Flight.Continues (before after : Flight) : Prop where
  lock : after.lock = before.lock
  holding : after.holding = before.holding
  phase : after.phase ≠ .scheduled

/-- What an event may do to the locks and to the calls under way. -/
inductive Turn (s t : System) : Event → Prop where
  | same {event : Event} : t.locks = s.locks → t.flights = s.flights → Turn s t event
  | scheduled {event : Event} {call : Nat} {flight : Flight} : s.flights call = none →
      t.locks = s.locks → t.flights = Function.update s.flights call (some flight) →
      flight.holding = false → Turn s t event
  | dropped {event : Event} {call : Nat} {flight : Flight} : s.flights call = some flight →
      flight.phase = .scheduled → t.locks = s.locks →
      t.flights = Function.update s.flights call none → Turn s t event
  | continued {event : Event} {call : Nat} {before after : Flight} : s.flights call = some before →
      before.Continues after → t.locks = s.locks →
      t.flights = Function.update s.flights call (some after) → Turn s t event
  | acquired {event : Event} {call : Nat} {before after : Flight} : s.flights call = some before →
      after.lock = before.lock → after.phase ≠ .scheduled → before.phase = .scheduled →
      before.lock ∉ s.locks → t.locks = insert before.lock s.locks →
      t.flights = Function.update s.flights call (some after) → Turn s t event
  | released {call : Nat} {flight : Flight} : s.flights call = some flight →
      t.locks = s.locks.erase flight.lock → t.flights = Function.update s.flights call none →
      Turn s t (.release call)
  | freed {event : Event} {lock : Nat × String} {owner : String} : Frees s event lock owner →
      t.locks = s.locks.erase lock → t.flights = (s.free lock owner).flights → Turn s t event
  | restarted {process : Nat} : t.locks = (restart s process).locks →
      t.flights = (restart s process).flights → Turn s t (.restart process)

theorem cancel_turn {s : System} {runner : RunnerId} {run : AutomationRun} {job : AutomationJob}
    {now : Moment} {event : Event}
    (frees : Cancels s runner run now →
      Frees s event (runner.process, job.lockKey) run.automationRunId) :
    Turn s (cancel s runner run job now) event := by
  unfold cancel
  split
  · exact .same rfl rfl
  · rename_i cancelled made
    split
    · exact .same rfl rfl
    · rename_i records saved
      refine .freed (frees ⟨cancelled, records, made, saved⟩) ?_ ?_
      · simp
      · simp [System.free]

theorem next_turn {s t : System} {event : Event} (step : next s event = some t) : Turn s t event := by
  cases event with
  | schedule call runner job scheduledFor =>
      simp only [next, schedule] at step
      split at step
      · cases step
      · rename_i absent
        split at step
        · cases step
          exact .scheduled absent rfl rfl rfl
        · cases step
          exact .same rfl rfl
  | acquire call now =>
      simp only [next, acquire] at step
      split at step
      · rename_i flight present
        split_ifs at step with idle cancelled exclusive locked
        · cases step
          exact .dropped present idle (giveUp_locks ..) (giveUp_flights ..)
        · cases step
          exact .dropped present idle (giveUp_locks ..) (giveUp_flights ..)
        · cases step
          refine .acquired present ?_ ?_ idle locked rfl rfl
          · rfl
          · exact nofun
        · cases step
          refine .continued present ⟨?_, ?_, ?_⟩ rfl rfl
          · rfl
          · rfl
          · exact nofun
      · cases step
  | begin_ call claimedAt startedAt =>
      simp only [next, begin_] at step
      split at step
      · rename_i flight present
        split_ifs at step
        split at step
        · cases step
          refine .continued present ⟨?_, ?_, ?_⟩ rfl rfl
          · rfl
          · rfl
          · exact nofun
        · cases step
      · cases step
  | finish call execution checkedAt endedAt failedAt =>
      simp only [next, finish] at step
      split at step
      · rename_i flight present
        have ended : flight.Continues { flight with phase := .ended } := ⟨rfl, rfl, nofun⟩
        split_ifs at step
        split at step
        · split at step <;> cases step <;> exact .continued present ended (by simp) (by simp)
        · cases step
          exact .continued present ended (by simp) (by simp)
      · cases step
  | release call =>
      simp only [next, release] at step
      split at step
      · split_ifs at step
        cases step
        exact .released ‹_› rfl rfl
      · cases step
  | cancel runner run job now =>
      cases step
      exact cancel_turn fun cancels => ⟨cancels, rfl, rfl⟩
  | cancelById runner run jobs now =>
      simp only [next, cancelById] at step
      split_ifs at step
      split at step
      · rename_i job found
        cases step
        exact cancel_turn fun cancels => ⟨cancels, rfl, job, found, rfl⟩
      · cases step
        exact .same rfl rfl
  | recover runner run jobs now =>
      simp only [next, recover] at step
      split at step
      case isFalse => cases step
      cases step
      cases found : jobFor jobs run with
      | none => exact .same (conclude_locks ..) (conclude_flights ..)
      | some job =>
          by_cases unstarted : run.status = .scheduled
          · simp only [if_pos unstarted]
            exact .same (conclude_locks ..) (conclude_flights ..)
          · simp only [if_neg unstarted]
            exact .freed ⟨unstarted, rfl, job, found, rfl⟩ (conclude_locks ..) (conclude_flights ..)
  | restart process =>
      cases step
      exact .restarted rfl rfl

variable {s t : System} {event : Event}

theorem flights_update {call : Nat} {put : Option Flight}
    (flights : t.flights = Function.update s.flights call put) {other : Nat} {flight : Flight} :
    t.flights other = some flight ↔
      other = call ∧ put = some flight ∨ other ≠ call ∧ s.flights other = some flight := by
  rw [flights, Function.update_apply]
  split <;> simp_all

theorem holds_update {call : Nat} {put : Option Flight}
    (flights : t.flights = Function.update s.flights call put) {other : Nat} {flight : Flight} :
    Holds t other flight ↔ other = call ∧ put = some flight ∧ flight.holding = true ∨
      other ≠ call ∧ Holds s other flight := by
  unfold Holds
  rw [flights_update flights, or_and_right, and_assoc, and_assoc]

theorem flights_free {lock : Nat × String} {owner : String}
    (flights : t.flights = (s.free lock owner).flights) {call : Nat} {flight : Flight}
    (present : t.flights call = some flight) :
    ∃ before, s.flights call = some before ∧ flight.lock = before.lock ∧
      flight.phase = before.phase ∧ (flight.holding = true → before.holding = true ∧
        ¬(before.lock = lock ∧ before.current.automationRunId = owner)) := by
  rw [flights] at present
  obtain ⟨before, there, made⟩ := Option.map_eq_some_iff.mp present
  refine ⟨before, there, ?_⟩
  split at made
  · cases made
    exact ⟨rfl, rfl, fun holding => absurd holding.symm (Bool.noConfusion)⟩
  · cases made
    exact ⟨rfl, rfl, fun holding => ⟨holding, ‹_›⟩⟩

theorem holds_free {lock : Nat × String} {owner : String}
    (flights : t.flights = (s.free lock owner).flights) {call : Nat} {flight : Flight}
    (holds : Holds s call flight)
    (other : ¬(flight.lock = lock ∧ flight.current.automationRunId = owner)) :
    Holds t call flight := by
  refine ⟨?_, holds.2⟩
  rw [flights]
  show (s.flights call).map _ = some flight
  rw [holds.1, Option.map_some, if_neg other]

/-- The calls that hold a lock held it before, and it is still locked. -/
theorem Secure.of_held (secure : Secure s)
    (held : ∀ call flight, Holds t call flight →
      ∃ before, Holds s call before ∧ flight.lock = before.lock ∧ flight.lock ∈ t.locks)
    (idle : ∀ call flight, t.flights call = some flight → flight.phase = .scheduled →
      flight.holding = false) : Secure t where
  exclusive first second f g holds holds' same := by
    obtain ⟨_, before, lock, -⟩ := held first f holds
    obtain ⟨_, before', lock', -⟩ := held second g holds'
    exact secure.exclusive before before' (by rw [← lock, ← lock', same])
  backed holds := (held _ _ holds).choose_spec.2.2
  idle := idle _ _

theorem Secure.step (secure : Secure s) (spares : Spares s event) (step : next s event = some t) :
    Secure t := by
  cases next_turn step with
  | same locks flights =>
      have holds : ∀ {call flight}, Holds t call flight ↔ Holds s call flight := by
        intro call flight
        rw [Holds, Holds, flights]
      refine secure.of_held (fun call flight held => ?_) ?_
      · exact ⟨flight, holds.mp held, rfl, locks ▸ secure.backed (holds.mp held)⟩
      · rw [flights]
        exact fun _ _ => secure.idle
  | scheduled absent locks flights free =>
      refine secure.of_held (fun other g held => ?_) fun other g present idle => ?_
      · rcases (holds_update flights).mp held with ⟨-, new, holding⟩ | ⟨-, held⟩
        · cases new
          exact absurd (free.symm.trans holding) Bool.false_ne_true
        · exact ⟨g, held, rfl, locks ▸ secure.backed held⟩
      · rcases (flights_update flights).mp present with ⟨-, new⟩ | ⟨-, present⟩
        · cases new
          exact free
        · exact secure.idle present idle
  | dropped present unstarted locks flights =>
      refine secure.of_held (fun other g held => ?_) fun other g present idle => ?_
      · rcases (holds_update flights).mp held with ⟨-, new, -⟩ | ⟨-, held⟩
        · cases new
        · exact ⟨g, held, rfl, locks ▸ secure.backed held⟩
      · rcases (flights_update flights).mp present with ⟨-, new⟩ | ⟨-, present⟩
        · cases new
        · exact secure.idle present idle
  | @continued _ call before after present continues locks flights =>
      refine secure.of_held (fun other g held => ?_) fun other g there idle => ?_
      · rcases (holds_update flights).mp held with ⟨rfl, new, holding⟩ | ⟨-, held⟩
        · cases new
          have held : Holds s other before := ⟨present, continues.holding ▸ holding⟩
          exact ⟨before, held, continues.lock, by rw [locks, continues.lock]; exact secure.backed held⟩
        · exact ⟨g, held, rfl, locks ▸ secure.backed held⟩
      · rcases (flights_update flights).mp there with ⟨-, new⟩ | ⟨-, there⟩
        · cases new
          exact absurd idle continues.phase
        · exact secure.idle there idle
  | @acquired _ call before after present lock started unstarted unlocked locks flights =>
      have fresh : ∀ {other g}, Holds s other g → g.lock ≠ before.lock := by
        intro other g held same
        exact unlocked (same ▸ secure.backed held)
      constructor
      · intro first second f g held held' same
        rcases (holds_update flights).mp held with ⟨rfl, new, -⟩ | ⟨-, held⟩ <;>
          rcases (holds_update flights).mp held' with ⟨rfl, new', -⟩ | ⟨-, held'⟩
        · rfl
        · cases new
          exact absurd (same.symm.trans lock) (fresh held')
        · cases new'
          exact absurd (same.trans lock) (fresh held)
        · exact secure.exclusive held held' same
      · intro other g held
        rw [locks, Finset.mem_insert]
        rcases (holds_update flights).mp held with ⟨-, new, -⟩ | ⟨-, held⟩
        · cases new
          exact Or.inl lock
        · exact Or.inr (secure.backed held)
      · intro other g there idle
        rcases (flights_update flights).mp there with ⟨-, new⟩ | ⟨-, there⟩
        · cases new
          exact absurd idle started
        · exact secure.idle there idle
  | @released call flight present locks flights =>
      refine secure.of_held (fun other g held => ?_) fun other g there idle => ?_
      · rcases (holds_update flights).mp held with ⟨-, new, -⟩ | ⟨different, held⟩
        · cases new
        · refine ⟨g, held, rfl, ?_⟩
          rw [locks, Finset.mem_erase]
          refine ⟨fun same => ?_, secure.backed held⟩
          cases holding : flight.holding with
          | true => exact different (secure.exclusive held ⟨present, holding⟩ same)
          | false => exact spares.release rfl present holding held same
      · rcases (flights_update flights).mp there with ⟨-, new⟩ | ⟨-, there⟩
        · cases new
        · exact secure.idle there idle
  | @freed _ lock owner frees locks flights =>
      refine secure.of_held (fun other g held => ?_) fun other g there idle => ?_
      · obtain ⟨before, there, same, -, kept⟩ := flights_free flights held.1
        obtain ⟨holding, other_owner⟩ := kept held.2
        refine ⟨before, ⟨there, holding⟩, same, ?_⟩
        rw [locks, Finset.mem_erase, same]
        refine ⟨fun freed => other_owner ⟨freed, ?_⟩, secure.backed ⟨there, holding⟩⟩
        exact spares.frees frees ⟨there, holding⟩ freed
      · obtain ⟨before, there, -, phase, kept⟩ := flights_free flights there
        refine Bool.eq_false_iff.mpr fun holding => ?_
        exact absurd (kept holding).1 (Bool.eq_false_iff.mp (secure.idle there (phase ▸ idle)))
  | restarted locks flights =>
      refine secure.of_held (fun other g held => ?_) fun other g there idle => ?_
      · obtain ⟨there, alive⟩ := Option.filter_eq_some_iff.mp (flights ▸ held.1)
        refine ⟨g, ⟨there, held.2⟩, rfl, ?_⟩
        rw [locks]
        exact Finset.mem_filter.mpr ⟨secure.backed ⟨there, held.2⟩, of_decide_eq_true alive⟩
      · exact secure.idle (Option.filter_eq_some_iff.mp (flights ▸ there)).1 idle

/-- A call that holds a lock goes on holding it, but for its own end. -/
theorem Holds.step (secure : Secure s) (step : next s event = some t) {call : Nat} {flight : Flight}
    (holds : Holds s call flight) (on : ¬OwnEnd s event call flight) :
    ∃ after, Holds t call after ∧ after.lock = flight.lock := by
  cases next_turn step with
  | same locks flights => exact ⟨flight, ⟨flights ▸ holds.1, holds.2⟩, rfl⟩
  | @scheduled _ other _ absent locks flights free =>
      refine ⟨flight, (holds_update flights).mpr (Or.inr ⟨?_, holds⟩), rfl⟩
      rintro rfl
      exact absurd (absent.symm.trans holds.1) nofun
  | @dropped _ other _ present unstarted locks flights =>
      refine ⟨flight, (holds_update flights).mpr (Or.inr ⟨?_, holds⟩), rfl⟩
      rintro rfl
      cases holds.1.symm.trans present
      exact absurd ((secure.idle present unstarted).symm.trans holds.2) Bool.false_ne_true
  | @continued _ other before after present continues locks flights =>
      by_cases own : call = other
      · subst own
        cases holds.1.symm.trans present
        refine ⟨after, (holds_update flights).mpr (Or.inl ⟨rfl, rfl, ?_⟩), continues.lock⟩
        exact continues.holding.trans holds.2
      · exact ⟨flight, (holds_update flights).mpr (Or.inr ⟨own, holds⟩), rfl⟩
  | @acquired _ other before after present lock started unstarted unlocked locks flights =>
      refine ⟨flight, (holds_update flights).mpr (Or.inr ⟨?_, holds⟩), rfl⟩
      rintro rfl
      cases holds.1.symm.trans present
      exact absurd ((secure.idle present unstarted).symm.trans holds.2) Bool.false_ne_true
  | @released other _ present locks flights =>
      refine ⟨flight, (holds_update flights).mpr (Or.inr ⟨?_, holds⟩), rfl⟩
      rintro rfl
      exact on (Or.inl rfl)
  | @freed _ lock owner frees locks flights =>
      refine ⟨flight, holds_free flights holds ?_, rfl⟩
      rintro ⟨rfl, rfl⟩
      exact on (Or.inr (Or.inl frees))
  | @restarted process locks flights =>
      refine ⟨flight, ⟨?_, holds.2⟩, rfl⟩
      rw [flights]
      refine Option.filter_eq_some_iff.mpr ⟨holds.1, decide_eq_true ?_⟩
      rintro rfl
      exact on (Or.inr (Or.inr rfl))

theorem cancel_locks {runner : RunnerId} {run : AutomationRun} {job : AutomationJob} {now : Moment}
    (cancels : Cancels s runner run now) :
    (cancel s runner run job now).locks = s.locks.erase (runner.process, job.lockKey) := by
  obtain ⟨cancelled, records, made, saved⟩ := cancels
  simp only [cancel, made, saved]
  simp

theorem Frees.locks {lock : Nat × String} {owner : String} (frees : Frees s event lock owner)
    (step : next s event = some t) : lock ∉ t.locks := by
  suffices erased : t.locks = s.locks.erase lock by
    rw [erased]
    exact Finset.notMem_erase lock _
  cases event with
  | cancel runner run job now =>
      obtain ⟨cancels, rfl, -⟩ := frees
      cases step
      exact cancel_locks cancels
  | cancelById runner run jobs now =>
      obtain ⟨cancels, -, job, found, rfl⟩ := frees
      simp only [next, cancelById, Option.mem_def.mp found] at step
      split at step
      case isFalse => cases step
      cases step
      exact cancel_locks cancels
  | recover runner run jobs now =>
      obtain ⟨active, -, job, found, rfl⟩ := frees
      simp only [next, recover, Option.mem_def.mp found, if_neg active] at step
      split at step
      case isFalse => cases step
      cases step
      simp
  | schedule _ _ _ _ => exact frees.elim
  | acquire _ _ => exact frees.elim
  | begin_ _ _ _ => exact frees.elim
  | finish _ _ _ _ _ => exact frees.elim
  | release _ => exact frees.elim
  | restart _ => exact frees.elim

/-- The run on whose account an event releases locks. -/
theorem Frees.owner {lock : Nat × String} {owner other : String} (frees : Frees s event lock owner)
    (also : Frees s event lock other) : owner = other := by
  cases event with
  | cancel _ _ _ _ => rw [frees.2.2, also.2.2]
  | cancelById _ _ _ _ => rw [frees.2.1, also.2.1]
  | recover _ _ _ _ => rw [frees.2.1, also.2.1]
  | schedule _ _ _ _ => exact frees.elim
  | acquire _ _ => exact frees.elim
  | begin_ _ _ _ => exact frees.elim
  | finish _ _ _ _ _ => exact frees.elim
  | release _ => exact frees.elim
  | restart _ => exact frees.elim

theorem release_locks {call : Nat} {flight : Flight} (present : s.flights call = some flight)
    (step : next s (.release call) = some t) : flight.lock ∉ t.locks := by
  simp only [next, release, present] at step
  split at step
  · cases step
    exact Finset.notMem_erase flight.lock _
  · cases step

/-- Every call that holds a lock keeps it, but for its own end. -/
def Keeps (s t : System) (event : Event) : Prop :=
  ∀ call flight, Holds s call flight → OwnEnd s event call flight ∨
    flight.lock ∈ t.locks ∧ ∃ after, Holds t call after ∧ after.lock = flight.lock

theorem Secure.keeps_iff (secure : Secure s) (step : next s event = some t) :
    Keeps s t event ↔ Spares s event := by
  constructor
  · intro keeps
    constructor
    · rintro call flight rfl present free other g holds same
      rcases keeps other g holds with (own | frees | lost) | ⟨locked, -⟩
      · cases own
        cases present.symm.trans holds.1
        exact absurd (free.symm.trans holds.2) Bool.false_ne_true
      · exact frees.elim
      · cases lost
      · exact release_locks present step (same ▸ locked)
    · intro lock owner frees call flight holds same
      rcases keeps call flight holds with (rfl | own | rfl) | ⟨locked, -⟩
      · exact frees.elim
      · exact own.owner (same.symm ▸ frees)
      · exact frees.elim
      · exact absurd (same ▸ locked) (frees.locks step)
  · intro spares call flight holds
    refine or_iff_not_imp_left.mpr fun on => ?_
    obtain ⟨after, held, same⟩ := holds.step secure step on
    exact ⟨same ▸ (secure.step spares step).backed held, after, held, same⟩

/-- In every run that spares the locks of others at every step, no two calls hold one lock,
and a further step leaves every holder its lock, up to the holder's own end, if and only if
it spares them too. -/
theorem lock_exclusive {records : List AutomationRun} {events : List Event}
    (run : Run (fun s event t => next s event = some t ∧ Spares s event) (System.start records)
      events s) :
    Exclusive s ∧ ∀ event t, next s event = some t → (Keeps s t event ↔ Spares s event) := by
  have secure : Secure s := run.preserves Secure
    (fun _ _ _ secure step => secure.step step.2 step.1) (secure_start records)
  exact ⟨secure.exclusive, fun _ _ step => secure.keeps_iff step⟩

def sampleJob : AutomationJob := ⟨"nightly", ⟨"project", "project-a"⟩, "scheduled", none, true⟩

def sampleMoment : Moment := ⟨0, Calendar.zero_lt_end⟩

def sampleRunner (number : Nat) : RunnerId := ⟨0, number, false⟩

/-- A run of the job that takes its lock. -/
def sampleStart : List Event :=
  [.schedule 0 (sampleRunner 0) sampleJob sampleMoment, .acquire 0 sampleMoment]

def sampleFlight : Flight where
  runner := sampleRunner 0
  job := sampleJob
  current := scheduledRun sampleJob sampleMoment
  phase := .acquired
  holding := true

/-- A call of another job. -/
def otherFlight : Flight where
  runner := sampleRunner 1
  job := { sampleJob with jobId := "weekly" }
  current := scheduledRun { sampleJob with jobId := "weekly" } sampleMoment
  phase := .acquired
  holding := true

/-- A second call of the job does not get its lock, and a call of another job gets its own. -/
theorem lock_exclusive_sample : ∃ s,
    Holds s 0 sampleFlight ∧ s.flights 1 = none ∧ Holds s 2 otherFlight ∧ Exclusive s := by
  have scheduling (call : Nat) (runner : RunnerId) (job : AutomationJob) (s : System) :
      Spares s (.schedule call runner job sampleMoment) := ⟨nofun, fun frees => frees.elim⟩
  have acquiring (call : Nat) (s : System) : Spares s (.acquire call sampleMoment) :=
    ⟨nofun, fun frees => frees.elim⟩
  have run : Run (fun s event t => next s event = some t ∧ Spares s event) (System.start [])
      (sampleStart ++ [.schedule 1 (sampleRunner 1) sampleJob sampleMoment, .acquire 1 sampleMoment,
        .schedule 2 (sampleRunner 1) otherFlight.job sampleMoment, .acquire 2 sampleMoment]) _ :=
    Run.cons ⟨rfl, scheduling ..⟩ (Run.cons ⟨rfl, acquiring ..⟩ (Run.cons ⟨rfl, scheduling ..⟩
      (Run.cons ⟨rfl, acquiring ..⟩ (Run.cons ⟨rfl, scheduling ..⟩ (Run.cons ⟨rfl, acquiring ..⟩ Run.nil)))))
  exact ⟨_, ⟨rfl, rfl⟩, rfl, ⟨rfl, rfl⟩, (lock_exclusive run).1⟩

/-- Another run of the job, which is not under way. -/
def otherRun : AutomationRun :=
  { scheduledRun sampleJob sampleMoment with automationRunId := "run-cancel" }

theorem runId_ne (job : AutomationJob) (scheduledFor : Moment) :
    runId job scheduledFor ≠ "run-cancel" := by
  intro same
  have first := congrArg (fun text : String => text.toList.head?) same
  rw [runId, identity] at first
  simp at first

/-- Cancelling the other run releases the lock, and a second run of the job acquires it. -/
theorem lock_exclusive_fails : ∃ events s, Run (fun s event t => next s event = some t)
    (System.start []) (sampleStart ++ events) s ∧ ¬Exclusive s := by
  refine ⟨[.cancel (sampleRunner 1) otherRun sampleJob sampleMoment,
    .schedule 1 (sampleRunner 0) sampleJob sampleMoment, .acquire 1 sampleMoment], _,
    Run.cons rfl (Run.cons rfl (Run.cons rfl (Run.cons rfl (Run.cons rfl Run.nil)))), ?_⟩
  have kept : ¬(sampleFlight.lock = (0, sampleJob.lockKey) ∧
      sampleFlight.current.automationRunId = otherRun.automationRunId) :=
    fun same => runId_ne _ _ same.2
  intro exclusive
  have second : 0 = 1 := @exclusive 0 1 sampleFlight sampleFlight
    ⟨congrArg some (if_neg kept), rfl⟩ ⟨rfl, rfl⟩ rfl
  exact absurd second (by decide)

end Hunter.Automation
