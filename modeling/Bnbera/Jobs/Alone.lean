import Bnbera.Jobs.Lifecycle
import Bnbera.Jobs.Memory
import Bnbera.Jobs.Law

namespace Bnbera

open Interleaving

def JobRepository.settle [Sha256] (repository : JobRepository) (nowUnix : Int) (memory : JobMemory) :
    Except Failure Prepared → Except Failure JobAnswer × JobMemory
  | .error failure => (.error failure, memory)
  | .ok (.replayed answer) => (.ok answer, memory)
  | .ok (.commits input answer) =>
    match repository.commit nowUnix memory input with
    | .ok after => (.ok answer, after)
    | .error failure => (.error failure, memory)

/-- `transition` run alone, the trusted clock showing one time throughout. -/
def JobRepository.transitionAlone [Sha256] (repository : JobRepository) (nowUnix : Int) (eventId : Uuid)
    (memory : JobMemory) (input : TransitionInput) : Except Failure JobAnswer × JobMemory :=
  repository.settle nowUnix memory (repository.transition nowUnix eventId memory input)

def JobRepository.createAlone [Sha256] (repository : JobRepository) (nowUnix : Int) (eventId : Uuid)
    (memory : JobMemory) (input : CreateJobInput) : Except Failure JobAnswer × JobMemory :=
  repository.settle nowUnix memory (repository.create nowUnix eventId memory input)

def Idle {σ Call Op : Type} {Ans : Op → Type} {Res : Type} (s : Process σ Call Op Ans Res) : Prop :=
  s.waiting = [] ∧ s.turn = none

section
variable [Sha256] {repository : JobRepository} {s : JobProcess} {initial : JobMemory → Prop}
  {permits : Moment JobCall CommitInput (Except Failure JobAnswer) → JobProcess → Prop}

theorem Reach.settled (reach : repository.service.Reach permits initial s) (idle : Idle s) {nowUnix : Int}
    {eventId : Uuid} {call : JobCall} {prepared : Except Failure Prepared}
    (called : permits (.called call) s) (enters : ∀ now, permits .entered now)
    (commits : ∀ input now, now.maps = s.maps → permits (.acted call input) now)
    (leaves : ∀ result now, permits (.left call result) now)
    (prepares : repository.prepare nowUnix eventId s.maps call = some prepared) :
    repository.service.Reach permits initial
      ⟨(repository.settle nowUnix s.maps prepared).2, [], none,
        s.returned ++ [(call, (repository.settle nowUnix s.maps prepared).1)]⟩ := by
  obtain ⟨maps, waiting, turn, returned⟩ := s
  obtain ⟨rfl, rfl⟩ := idle
  match prepared with
  | .error failure => exact reach.next called (.answered (.refused prepares))
  | .ok (.replayed answer) => exact reach.next called (.answered (.replayed prepares))
  | .ok (.commits input answer) =>
    have joined := reach.next called (.joined (.commits prepares))
    have entered := joined.next (enters _) (.entered rfl rfl)
    simp only [JobRepository.settle]
    cases outcome : repository.commit nowUnix maps input with
    | error failure =>
      have acted := entered.next (commits input _ rfl) (.acted rfl (.refused outcome))
      exact acted.next (leaves _ _) (.undone rfl ⟨failure, rfl⟩)
    | ok after =>
      have acted := entered.next (commits input _ rfl) (.acted rfl (.committed outcome))
      exact acted.next (leaves _ _) (.kept rfl (fun failed => nomatch failed.choose_spec))

end

theorem TransitionAccepted.kept [Sha256] {input : TransitionJobInput} {job : JobRecord} {event : JobEvent}
    {pin : EnabledDeploymentPin} (accepted : TransitionAccepted input job event)
    (pinned : input.request.deploymentPin = .enabled pin)
    (parsed : parseEnabledDeploymentPin (.enabled pin) = .ok pin) :
    assertDeploymentPinSnapshot job.deploymentPin job.deploymentPinDigest pin = .ok () ∧
      assertPinMatchesJob job.terms pin = .ok () ∧ assertBudgetMatchesPin job.terms.budgetAtomic.text pin = .ok () ∧
      job.jobKey = input.request.job.jobKey ∧ job.terms.expiresAtUnix = input.request.job.terms.expiresAtUnix := by
  obtain ⟨enabled, terms, nowUnix, read, termed, rfl⟩ := accepted.made
  have asserted := accepted.asserted
  simp only [assertErc8183Transition, bind_eq_ok, pinned, parsed, Except.ok.injEq, exists_eq_left'] at asserted
  rw [pinned, parsed] at read
  cases Except.ok.inj read
  obtain ⟨_, _, _, snapshot, _, matched, _, budget, _⟩ := asserted
  obtain ⟨agreement, changed⟩ := nextTerms_agreement termed
  refine ⟨?_, ?_, ?_, rfl, agreement.expiresAtUnix⟩
  · exact (assertDeploymentPinSnapshot_trimmed _ _ _).trans snapshot
  · exact (assertPinMatchesJob_agreement agreement pin).trans matched
  · rcases changed with same | fresh
    · have text : terms.budgetAtomic.text = input.request.job.terms.budgetAtomic.text := congrArg _ same
      exact (congrArg (assertBudgetMatchesPin · pin) text).trans budget
    · exact fresh

/-- The commit accepts the job and the key: the expiry of the job leaves the lead and
keeps within the horizon of the pin, and no white space stands before the key. -/
def CommitAdmits (pin : EnabledDeploymentPin) (job : JobRecord) (nowUnix : Int) (idempotencyKey : String) : Prop :=
  nowUnix + pin.minExpiryLeadSeconds.value < job.terms.expiresAtUnix.value ∧
    job.terms.expiresAtUnix.value ≤ nowUnix + pin.maxExpiryHorizonSeconds.value ∧
    ∀ c, idempotencyKey.toList.head? = some c → isTrimmed c = false

def transitionCommit [Sha256] (key : IdempotencyKey) (input : TransitionInput) (existing job : JobRecord)
    (event : JobEvent) : CommitInput :=
  let jobKey := keyFor (normalizeJobKey input.jobKey)
  ⟨key.text, (input.digest jobKey).text, jobKey, some existing, job, event, none⟩

/-- A commit of a transition that the lifecycle accepts on the stored job. -/
theorem transitionCommit_valid [Sha256] {repository : JobRepository} {nowUnix : Int} {key : IdempotencyKey}
    {input : TransitionInput} {existing job : JobRecord} {event : JobEvent} (time : IsTrustedTime nowUnix)
    (read : trim input.idempotencyKey = key.text)
    (own : keyFor existing.jobKey = keyFor (normalizeJobKey input.jobKey))
    (accepted : TransitionAccepted (repository.transitionJobInput nowUnix existing input) job event) :
    CommitValid repository nowUnix (transitionCommit key input existing job event) key ↔
      CommitAdmits repository.deploymentPin existing nowUnix input.idempotencyKey := by
  obtain ⟨snapshot, matched, budget, sameKey, sameExpiry⟩ := accepted.kept rfl repository.parsed
  obtain ⟨_, created⟩ := accepted.event
  have sameKey : job.jobKey = existing.jobKey := sameKey
  have sameExpiry : job.terms.expiresAtUnix = existing.terms.expiresAtUnix := sameExpiry
  have eventKey : event.eventKey = trim ("action:" ++ input.idempotencyKey) := created.eventKey
  have letters : ("action:".toList.all fun c => !isTrimmed c) = true := by decide +kernel
  have word : ∀ c ∈ "action:".toList, isTrimmed c = false := by simpa only [List.all_eq_true, Bool.not_eq_true'] using letters
  have bound : event.eventKey = "action:" ++ key.text ↔
      ∀ c, input.idempotencyKey.toList.head? = some c → isTrimmed c = false := by
    have present : trim input.idempotencyKey ≠ "" := by
      rw [read]
      intro empty
      have accepted := key.accepted
      rw [empty] at accepted
      cases accepted
    rw [eventKey, ← read, trim_append word (by decide) present]
  constructor
  · intro valid
    obtain ⟨persisted, parsed, _, _, _, terms, checked⟩ := valid.job
    cases Except.ok.inj (accepted.parsed.symm.trans parsed)
    obtain ⟨_, _, _, lead, horizon, _⟩ := (validateJobTerms_eq_ok repository.parsed).mp checked
    rw [sameExpiry] at lead horizon
    exact ⟨lead, horizon, bound.mp valid.eventKey⟩
  · rintro ⟨lead, horizon, clean⟩
    rw [← sameExpiry] at lead horizon
    have checked := (validateJobTerms_eq_ok repository.parsed).mpr ⟨matched, budget, time, lead, horizon, rfl⟩
    have sameText : keyFor (normalizeJobKey existing.jobKey) = keyFor existing.jobKey := by
      simp only [keyFor, keyFor_normalizeJobKey_text]
      rfl
    have eventJob : event.jobKey = normalizeJobKey existing.jobKey := created.jobKey
    exact {
      key := trim_eq_self key.clean
      job := ⟨job, accepted.parsed, snapshot, matched, budget, _, checked⟩
      time := time
      event := ⟨event, created.parsed⟩
      ownJob := (congrArg keyFor sameKey).trans own
      ownEvent := (congrArg keyFor eventJob).trans (sameText.trans own)
      eventKey := bound.mpr clean
      expected := fun expected found => Option.some.inj found ▸ own }

section
variable [Sha256] {repository : JobRepository}
  {s : Process JobMemory JobCall CommitInput (fun _ => Except Failure Unit) (Except Failure JobAnswer)}
  {nowUnix : Int} {eventId : Uuid} {input : TransitionInput} {key : IdempotencyKey} {existing job : JobRecord}
  {event : JobEvent}

/-- Up to its transaction `transition` refuses nothing that the lifecycle accepts. -/
theorem transition_prepared {memory : JobMemory} (time : IsTrustedTime nowUnix)
    (read : parseIdempotencyKeyText input.idempotencyKey = .ok key) (unused : memory.actions.get key.text = none)
    (stored : memory.jobs.get (keyFor (normalizeJobKey input.jobKey)) = some existing)
    (expected : existing.state = input.expectedState)
    (accepted : transitionErc8183Job eventId (repository.transitionJobInput nowUnix existing input) = .ok (job, event)) :
    repository.transition nowUnix eventId memory input =
      .ok (.commits (transitionCommit key input existing job event) (.moved job event false)) := by
  have trusted : trustedNowUnix nowUnix = .ok ⟨nowUnix, time.1, time.2⟩ := trustedNowUnix_eq_ok.mpr rfl
  have fresh : refuseIf (existing.state ≠ input.expectedState) (staleJob ("Expected job state " ++
      input.expectedState.text ++ ", observed " ++ existing.state.text ++ ".")) = .ok () :=
    refuseIf_eq_ok.mpr (not_not.mpr expected)
  simp only [JobRepository.transition, read, unused, stored, fresh, trusted, accepted, bind, Except.bind]
  rfl

theorem transitionCommit_ok_iff (reach : repository.service.Reach (fun _ _ => True) (· = .empty) s)
    (time : IsTrustedTime nowUnix) (read : parseIdempotencyKeyText input.idempotencyKey = .ok key)
    (unused : s.maps.actions.get key.text = none)
    (stored : s.maps.jobs.get (keyFor (normalizeJobKey input.jobKey)) = some existing)
    (accepted : transitionErc8183Job eventId (repository.transitionJobInput nowUnix existing input) = .ok (job, event)) :
    repository.commit nowUnix s.maps (transitionCommit key input existing job event) =
        .ok (s.maps.committed key (transitionCommit key input existing job event)) ↔
      CommitAdmits repository.deploymentPin existing nowUnix input.idempotencyKey := by
  have consistent := repository.reach_consistent reach
  have own := consistent.jobs _ _ stored
  rw [parseIdempotencyKeyText_eq_ok] at read
  rw [← transitionCommit_valid time read own (transitionErc8183Job_accepted accepted), commit_eq_ok]
  constructor
  · rintro ⟨action, valid, _⟩
    have same : action = key := Checked.ext (valid.key.symm.trans (trim_eq_self key.clean))
    exact same ▸ valid
  · intro valid
    have noEvent : s.maps.events.get event.eventKey = none := by
      have absent := consistent.events key.text
      have eventKey : event.eventKey = "action:" ++ key.text := valid.eventKey
      rw [unused, ← eventKey] at absent
      simpa using absent
    exact ⟨key, valid, congrArg (Option.map JobRecord.digest) stored, noEvent, unused, rfl⟩

theorem settle_commits_iff {memory after : JobMemory} {input : CommitInput} {answer : JobAnswer} :
    repository.settle nowUnix memory (.ok (.commits input answer)) = (.ok answer, after) ↔
      repository.commit nowUnix memory input = .ok after := by
  simp only [JobRepository.settle]
  cases repository.commit nowUnix memory input with
  | error failure => exact ⟨nofun, nofun⟩
  | ok after =>
    constructor
    · intro same
      exact congrArg Except.ok (Prod.mk.inj same).2
    · intro same
      rw [Except.ok.inj same]

/-- Run alone on a stored job, with an unused key and the expected state, `transition` commits exactly
what the lifecycle accepts if and only if the commit's own checks of the expiry and the key admit it. -/
theorem transitionAlone_commits_iff (reach : repository.service.Reach (fun _ _ => True) (· = .empty) s)
    (time : IsTrustedTime nowUnix) (read : parseIdempotencyKeyText input.idempotencyKey = .ok key)
    (unused : s.maps.actions.get key.text = none)
    (stored : s.maps.jobs.get (keyFor (normalizeJobKey input.jobKey)) = some existing)
    (expected : existing.state = input.expectedState)
    (accepted : transitionErc8183Job eventId (repository.transitionJobInput nowUnix existing input) = .ok (job, event)) :
    repository.transitionAlone nowUnix eventId s.maps input =
        (.ok (.moved job event false), s.maps.committed key (transitionCommit key input existing job event)) ↔
      CommitAdmits repository.deploymentPin existing nowUnix input.idempotencyKey := by
  have prepared := transition_prepared time read unused stored expected accepted
  rw [← transitionCommit_ok_iff reach time read unused stored accepted, JobRepository.transitionAlone, prepared,
    settle_commits_iff]

end

def sampleId : Uuid := ⟨"00000000-0000-4000-8000-000000000001", by decide +kernel⟩

def sampleRepository : JobRepository where
  deploymentPin := samplePin
  parsed := by decide +kernel
  reconcilerAddresses := []

def fundInput : TransitionInput where
  jobKey := (sampleJob .opened).jobKey
  expectedState := .opened
  nextState := .funded
  action := .fund
  actorAddress := clientAddress.text
  idempotencyKey := "fund-job-7"
  metadata := {}
  correlationId := "correlation"

@[irreducible] def createdMemory [Sha256] : JobMemory :=
  (sampleRepository.createAlone 100 sampleId .empty ⟨sampleJob .opened, "create-7"⟩).2

theorem createdMemory_reach [Sha256] {permits : Moment JobCall CommitInput (Except Failure JobAnswer) → JobProcess → Prop}
    (permitted : ∀ moment now, (∀ work, moment ≠ .called (.transaction work)) →
      (∀ call input, moment = .acted call input → now.maps = .empty) → permits moment now) :
    ∃ returned, sampleRepository.service.Reach permits (· = .empty) ⟨createdMemory, [], none, returned⟩ := by
  have start : sampleRepository.service.Reach permits (· = .empty) ⟨.empty, [], none, []⟩ := .start rfl
  have prepares : sampleRepository.prepare 100 sampleId .empty (.create ⟨sampleJob .opened, "create-7"⟩) =
    some (sampleRepository.create 100 sampleId .empty ⟨sampleJob .opened, "create-7"⟩) := rfl
  unfold createdMemory
  refine ⟨_, Reach.settled start ⟨rfl, rfl⟩ ?_ (fun now => ?_) (fun input now empty => ?_) (fun result now => ?_) prepares⟩
  · exact permitted _ _ (fun work same => (nomatch same)) (fun call input same => (nomatch same))
  · exact permitted _ _ (fun work same => (nomatch same)) (fun call input same => (nomatch same))
  · exact permitted _ _ (fun work same => (nomatch same)) (fun call input same => empty)
  · exact permitted _ _ (fun work same => (nomatch same)) (fun call input same => (nomatch same))

def fundKey : IdempotencyKey := ⟨"fund-job-7", by decide +kernel⟩

section
attribute [local instance] nullSha256

theorem createdMemory_stored : createdMemory.jobs.get (keyFor (normalizeJobKey fundInput.jobKey)) = some (sampleJob .opened) := by
  decide +kernel

theorem fundInput_accepted :
    ∃ existing, createdMemory.jobs.get (keyFor (normalizeJobKey fundInput.jobKey)) = some existing ∧
      createdMemory.actions.get fundKey.text = none ∧ existing.state = fundInput.expectedState ∧
      existing.terms.expiresAtUnix.value = 1000 ∧
      (∃ next, transitionErc8183Job sampleId (sampleRepository.transitionJobInput 200 existing fundInput) = .ok next) ∧
      ∃ next, transitionErc8183Job sampleId (sampleRepository.transitionJobInput 950 existing fundInput) = .ok next := by
  have unused : (createdMemory.actions.get fundKey.text).isNone = true := by decide +kernel
  have early : (transitionErc8183Job sampleId
      (sampleRepository.transitionJobInput 200 (sampleJob .opened) fundInput)).isOk = true := by decide +kernel
  have late : (transitionErc8183Job sampleId
      (sampleRepository.transitionJobInput 950 (sampleJob .opened) fundInput)).isOk = true := by decide +kernel
  exact ⟨_, createdMemory_stored, Option.isNone_iff_eq_none.mp unused, rfl, rfl, isOk_iff.mp early, isOk_iff.mp late⟩

theorem fundInput_read : parseIdempotencyKeyText fundInput.idempotencyKey = .ok fundKey := parseIdempotencyKeyText_text fundKey

theorem fundInput_admitted {existing : JobRecord} {nowUnix : Int} (expires : existing.terms.expiresAtUnix.value = 1000) :
    CommitAdmits sampleRepository.deploymentPin existing nowUnix fundInput.idempotencyKey ↔ 0 ≤ nowUnix ∧ nowUnix < 940 := by
  have lead : sampleRepository.deploymentPin.minExpiryLeadSeconds.value = 60 := rfl
  have horizon : sampleRepository.deploymentPin.maxExpiryHorizonSeconds.value = 1000 := rfl
  unfold CommitAdmits
  rw [lead, horizon, expires]
  constructor
  · intro admits
    omega
  · intro early
    exact ⟨by omega, by omega, fun c first => fundKey.clean c (List.mem_of_mem_head? first)⟩

/-- At 200 the funding commits. -/
theorem transitionAlone_commits_fund :
    ∃ existing job event, sampleRepository.transitionAlone 200 sampleId createdMemory fundInput =
      (.ok (.moved job event false),
        createdMemory.committed fundKey (transitionCommit fundKey fundInput existing job event)) := by
  obtain ⟨existing, stored, unused, state, expires, ⟨⟨job, event⟩, accepted⟩, _⟩ := fundInput_accepted
  obtain ⟨returned, reach⟩ := @createdMemory_reach _ (fun _ _ => True) (fun _ _ _ _ => trivial)
  have admits := (@fundInput_admitted existing 200 expires).mpr (by decide)
  have commits := @transitionAlone_commits_iff _ sampleRepository ⟨createdMemory, [], none, returned⟩ 200 sampleId
    fundInput fundKey existing job event reach (by decide) fundInput_read unused stored state accepted
  exact ⟨existing, job, event, commits.mpr admits⟩

/-- In the last minute before the expiry the lifecycle accepts the funding of the stored job,
and its transaction does not commit it. -/
theorem transitionAlone_refuses_accepted :
    ∃ existing job event returned,
      sampleRepository.service.Reach (fun _ _ => True) (· = .empty) ⟨createdMemory, [], none, returned⟩ ∧
      createdMemory.jobs.get (keyFor (normalizeJobKey fundInput.jobKey)) = some existing ∧
      createdMemory.actions.get fundKey.text = none ∧ existing.state = fundInput.expectedState ∧
      transitionErc8183Job sampleId (sampleRepository.transitionJobInput 950 existing fundInput) = .ok (job, event) ∧
      ∀ after, sampleRepository.transitionAlone 950 sampleId createdMemory fundInput ≠
        (.ok (.moved job event false), after) := by
  obtain ⟨existing, stored, unused, state, expires, _, ⟨⟨job, event⟩, accepted⟩⟩ := fundInput_accepted
  obtain ⟨returned, reach⟩ := @createdMemory_reach _ (fun _ _ => True) (fun _ _ _ _ => trivial)
  refine ⟨existing, job, event, returned, reach, stored, unused, state, accepted, fun after same => ?_⟩
  have prepared := @transition_prepared _ sampleRepository 950 sampleId fundInput fundKey existing job event
    createdMemory (by decide) fundInput_read unused stored state accepted
  rw [JobRepository.transitionAlone, prepared, settle_commits_iff] at same
  obtain ⟨action, valid, _, _, _, rfl⟩ := commit_eq_ok.mp same
  have key : action = fundKey := Checked.ext (valid.key.symm.trans (trim_eq_self fundKey.clean))
  subst key
  have commits := @transitionCommit_ok_iff _ sampleRepository ⟨createdMemory, [], none, returned⟩ 950 sampleId
    fundInput fundKey existing job event reach (by decide) fundInput_read unused stored accepted
  have admits := commits.mp same
  exact absurd ((fundInput_admitted expires).mp admits) (by decide)

end

end Bnbera
