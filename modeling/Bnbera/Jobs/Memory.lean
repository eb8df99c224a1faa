import Bnbera.Interleaving.Serialized
import Bnbera.Jobs.Validation
import Bnbera.Jobs.Lifecycle

namespace Bnbera

/-- `idempotencyKeySchema.parse` -/
def parseIdempotencyKeyText (text : String) : Except Failure IdempotencyKey :=
  match check isIdempotencyKeyText (trim text) with
  | some key => .ok key
  | none => .error (.zod (lengthIssues [] 8 160 (trim text) ++ [⟨[], "Invalid idempotency key"⟩]))

structure ActionRecord where
  digest : String
  requestDigest : Option String
  jobKey : String
  job : JobRecord
  event : JobEvent

/-- The maps of `InMemoryErc8183Repository`. -/
structure JobMemory where
  jobs : OrderedMap String JobRecord
  events : OrderedMap String JobEvent
  actions : OrderedMap String ActionRecord
  reconciliations : Reconciliations

/-- What the constructor fixes: the pin as it was read, which is read as itself again. -/
structure JobRepository where
  deploymentPin : EnabledDeploymentPin
  parsed : parseEnabledDeploymentPin (.enabled deploymentPin) = .ok deploymentPin
  reconcilerAddresses : List Address

structure CommitInput where
  actionKey : String
  actionDigest : String
  jobKey : String
  expectedJob : Option JobRecord
  job : JobRecord
  event : JobEvent
  requestDigest : Option String

def trustedNowUnix (nowUnix : Int) : Except Failure UnixSeconds :=
  match within? 1 maxSafeInteger nowUnix with
  | some time => .ok time
  | none => throwCommerce .invalidExpiry "The repository trusted clock returned an invalid Unix timestamp."

def staleJob (message : String) : Failure :=
  .commerce { code := .staleJob, message := message, retriable := true, nextAction := "reconcile_job" }

def SameEvent [Sha256] (left right : JobEvent) : Prop :=
  left.eventId = right.eventId ∧ left.eventKey = right.eventKey ∧ left.jobKey.chainId = right.jobKey.chainId ∧
    lower left.jobKey.commerceContract.text = lower right.jobKey.commerceContract.text ∧
    left.jobKey.jobId = right.jobKey.jobId ∧ left.eventType = right.eventType ∧
    left.previousState = right.previousState ∧ left.payloadDigest = right.payloadDigest ∧
    left.nextState = right.nextState ∧
    left.actorAddress.map (lower ·.text) = right.actorAddress.map (lower ·.text) ∧
    left.transactionHash = right.transactionHash ∧ left.blockNumber = right.blockNumber ∧
    left.blockHash = right.blockHash ∧ left.logIndex = right.logIndex ∧
    left.confirmationState = right.confirmationState ∧ left.correlationId = right.correlationId ∧
    left.observedAtUnix = right.observedAtUnix ∧ canonicalSha256Hex left.payload = canonicalSha256Hex right.payload

instance [Sha256] (left right : JobEvent) : Decidable (SameEvent left right) := by
  unfold SameEvent
  infer_instance

def JobRecord.digest [Sha256] (job : JobRecord) : Digest := canonicalSha256Hex job.json

def ActionRecord.Conflicts (prior : ActionRecord) (input : CommitInput) : Prop :=
  prior.digest ≠ input.actionDigest ∨ prior.jobKey ≠ input.jobKey ∨
    (input.requestDigest.isSome ∧ prior.requestDigest ≠ input.requestDigest)

instance (prior : ActionRecord) (input : CommitInput) : Decidable (prior.Conflicts input) :=
  inferInstanceAs (Decidable (_ ∨ _))

def assertExpectedJob [Sha256] (current expected : Option JobRecord) : Except Failure Unit :=
  match expected with
  | none => refuseIf current.isSome
      (commerceError .idempotencyConflict "An ERC-8183 job already exists for this chain, contract, and job ID.")
  | some expected => refuseIf (current.map JobRecord.digest ≠ some expected.digest)
      (staleJob "The ERC-8183 job changed before the atomic transition committed.")

/-- The checks of `commit` on its input alone. It returns the parsed key. -/
def JobRepository.validateCommit [Sha256] (repository : JobRepository) (nowUnix : Int) (input : CommitInput) :
    Except Failure IdempotencyKey := do
  let action ← parseIdempotencyKeyText input.actionKey
  let persistedJob ← input.job.parse
  assertDeploymentPinSnapshot persistedJob.deploymentPin persistedJob.deploymentPinDigest repository.deploymentPin
  assertPinMatchesJob persistedJob.terms repository.deploymentPin
  assertBudgetMatchesPin persistedJob.terms.budgetAtomic.text repository.deploymentPin
  let trusted ← trustedNowUnix nowUnix
  let _ ← validateJobTerms persistedJob.terms repository.deploymentPin trusted.value
  let _ ← input.event.parse
  refuseIf (keyFor input.job.jobKey ≠ input.jobKey ∨ keyFor input.event.jobKey ≠ input.jobKey ∨
      input.event.eventKey ≠ "action:" ++ action.text)
    (commerceError .eventConflict "The atomic job event is not bound to the committed job action.")
  refuseIf (input.expectedJob.any fun expected => keyFor expected.jobKey ≠ input.jobKey)
    (staleJob "The atomic job transition expected a different job identity.")
  return action

/-- The checks of `commit` against what is stored. -/
def JobMemory.assertUnused [Sha256] (memory : JobMemory) (action : IdempotencyKey) (input : CommitInput) :
    Except Failure Unit := do
  assertExpectedJob (memory.jobs.get input.jobKey) input.expectedJob
  let previous := memory.events.get input.event.eventKey
  refuseIf (previous.any fun event => ¬SameEvent event input.event)
    (commerceError .eventConflict "An event key was reused with different event contents.")
  let priorAction := memory.actions.get action.text
  refuseIf (priorAction.any fun prior => prior.Conflicts input)
    (commerceError .idempotencyConflict "The idempotency key was already used for another commerce operation.")
  refuseIf (previous.isSome ∨ priorAction.isSome)
    (commerceError .idempotencyConflict "The atomic commerce action was concurrently committed.")

def JobMemory.committed (memory : JobMemory) (action : IdempotencyKey) (input : CommitInput) : JobMemory :=
  { memory with
    jobs := memory.jobs.set input.jobKey input.job
    events := memory.events.set input.event.eventKey input.event
    actions := memory.actions.set action.text
      ⟨input.actionDigest, input.requestDigest, input.jobKey, input.job, input.event⟩ }

/-- `unit.commit` -/
def JobRepository.commit [Sha256] (repository : JobRepository) (nowUnix : Int) (memory : JobMemory)
    (input : CommitInput) : Except Failure JobMemory := do
  let action ← repository.validateCommit nowUnix input
  memory.assertUnused action input
  return memory.committed action input

inductive JobAnswer
  | created (job : JobRecord) (replayed : Bool)
  | moved (job : JobRecord) (event : JobEvent) (replayed : Bool)
  | reconciliation (record : Reconciliation)
  | worked

inductive Prepared
  | replayed (answer : JobAnswer)
  | commits (input : CommitInput) (answer : JobAnswer)

structure CreateJobInput where
  job : JobRecord
  idempotencyKey : String

def creationRequestDigest [Sha256] (job : JobRecord) : Digest :=
  canonicalSha256Hex (.obj [("operation", .str "create"), ("job", .obj job.requestFields)])

def keyReused : Failure :=
  commerceError .idempotencyConflict "The idempotency key was already used for another commerce operation."

/-- The event with which the history of a job begins. -/
def jobCreatedEvent [Sha256] (eventId : Uuid) (key : IdempotencyKey) (job : JobRecord) : JobEvent where
  eventId := eventId
  eventKey := "action:" ++ key.text
  jobKey := job.jobKey
  eventType := .jobCreated
  previousState := none
  nextState := some .opened
  actorAddress := some job.terms.clientAddress
  transactionHash := none
  blockNumber := none
  blockHash := none
  logIndex := none
  confirmationState := .canonical
  payloadDigest := .ofDigest (canonicalSha256Hex (.obj []))
  payload := .obj []
  correlationId := key.text
  observedAtUnix := job.createdAtUnix

/-- `create`, up to its transaction. -/
def JobRepository.create [Sha256] (repository : JobRepository) (nowUnix : Int) (eventId : Uuid) (memory : JobMemory)
    (input : CreateJobInput) : Except Failure Prepared := do
  let pin := repository.deploymentPin
  let key ← parseIdempotencyKeyText input.idempotencyKey
  let parsedJob ← input.job.parse
  assertDeploymentPinSnapshot parsedJob.deploymentPin parsedJob.deploymentPinDigest pin
  let normalizedTerms ← normalizeJobTerms parsedJob.terms pin
  let normalizedInput ← JobRecord.parse { parsedJob with
    jobKey := normalizeJobKey parsedJob.jobKey
    terms := normalizedTerms
    deploymentPin := pin
    deploymentPinDigest := .ofDigest (erc8183DeploymentPinDigest pin) }
  refuseIf (normalizedInput.state ≠ .opened)
    (commerceError .invalidJob "A new ERC-8183 job must begin in the open state.")
  let jobKey := keyFor normalizedInput.jobKey
  let requestDigest := (creationRequestDigest normalizedInput).text
  match memory.actions.get key.text with
  | some previous =>
    refuseIf (previous.requestDigest.getD previous.digest ≠ requestDigest ∨ previous.jobKey ≠ jobKey) keyReused
    return .replayed (.created previous.job true)
  | none =>
    let createdAtUnix ← trustedNowUnix nowUnix
    let terms ← validateJobTerms normalizedInput.terms pin createdAtUnix.value
    let job ← JobRecord.parse
      { normalizedInput with terms := terms, createdAtUnix := createdAtUnix, updatedAtUnix := createdAtUnix }
    refuseIf (memory.jobs.get jobKey).isSome
      (commerceError .idempotencyConflict "An ERC-8183 job already exists for this chain, contract, and job ID.")
    let event ← (jobCreatedEvent eventId key job).parse
    return .commits ⟨key.text, requestDigest, jobKey, none, job, event, some requestDigest⟩ (.created job false)

structure TransitionInput where
  jobKey : JobKey
  expectedState : JobState
  nextState : JobState
  action : JobAction
  actorAddress : String
  idempotencyKey : String
  metadata : ActionMetadata
  correlationId : String

/-- Fields that are given; `undefined` ones are left out. -/
def presentFields (fields : List (String × Option Json)) : List (String × Json) :=
  fields.filterMap fun field => field.2.map (field.1, ·)

def ActionMetadata.json (metadata : ActionMetadata) : Json := .obj (presentFields [
  ("deliverableDigest", metadata.deliverableDigest.map .str),
  ("providerAddress", metadata.providerAddress.map (Json.ofOption .str)),
  ("budgetAtomic", metadata.budgetAtomic.map .str),
  ("transactionHash", metadata.transactionHash.map .str),
  ("blockNumber", metadata.blockNumber.map .str),
  ("blockHash", metadata.blockHash.map .str),
  ("logIndex", metadata.logIndex.map fun index => .num (toString index)),
  ("payload", metadata.payload)])

def TransitionInput.digest [Sha256] (input : TransitionInput) (jobKey : String) : Digest := canonicalSha256Hex (.obj [
  ("operation", .str "transition"),
  ("jobKey", .str jobKey),
  ("expectedState", .str input.expectedState.text),
  ("nextState", .str input.nextState.text),
  ("action", .str input.action.text),
  ("actorAddress", .str input.actorAddress),
  ("metadata", input.metadata.json)])

/-- What `transition` asks of the lifecycle for a stored job at a trusted time. -/
def JobRepository.transitionJobInput (repository : JobRepository) (nowUnix : Int) (existing : JobRecord)
    (input : TransitionInput) : TransitionJobInput where
  request := {
    job := existing
    deploymentPin := .enabled repository.deploymentPin
    nextState := input.nextState
    action := input.action
    actorAddress := input.actorAddress
    nowUnix := nowUnix
    reconcilerAddresses := repository.reconcilerAddresses.map (·.text) }
  idempotencyKey := input.idempotencyKey
  metadata := input.metadata
  correlationId := input.correlationId

/-- `transition`, up to its transaction. -/
def JobRepository.transition [Sha256] (repository : JobRepository) (nowUnix : Int) (eventId : Uuid)
    (memory : JobMemory) (input : TransitionInput) : Except Failure Prepared := do
  let key ← parseIdempotencyKeyText input.idempotencyKey
  let jobKey := keyFor (normalizeJobKey input.jobKey)
  let digest := (input.digest jobKey).text
  match memory.actions.get key.text with
  | some previous =>
    refuseIf (previous.digest ≠ digest ∨ previous.jobKey ≠ jobKey) keyReused
    return .replayed (.moved previous.job previous.event true)
  | none =>
    match memory.jobs.get jobKey with
    | none => throwCommerce .unknownJob "The ERC-8183 job was not found."
    | some existing =>
      refuseIf (existing.state ≠ input.expectedState) (staleJob
        ("Expected job state " ++ input.expectedState.text ++ ", observed " ++ existing.state.text ++ "."))
      let trusted ← trustedNowUnix nowUnix
      let (job, event) ← transitionErc8183Job eventId (repository.transitionJobInput trusted.value existing input)
      return .commits ⟨key.text, digest, jobKey, some existing, job, event, none⟩ (.moved job event false)

section

open Interleaving

abbrev JobWork := Program CommitInput (fun _ => Except Failure Unit) (Except Failure JobAnswer)

inductive JobCall
  | create (input : CreateJobInput)
  | transition (input : TransitionInput)
  | transaction (work : JobWork)
  | enqueue (input : EnqueueInput)
  | update (input : ReconciliationUpdate)

def JobRepository.prepare [Sha256] (repository : JobRepository) (nowUnix : Int) (eventId : Uuid)
    (memory : JobMemory) : JobCall → Option (Except Failure Prepared)
  | .create input => some (repository.create nowUnix eventId memory input)
  | .transition input => some (repository.transition nowUnix eventId memory input)
  | _ => none

/-- `this.transaction(async (unit) => unit.commit(input))`, then the answer. -/
def commitThen (input : CommitInput) (answer : JobAnswer) : JobWork :=
  .call input fun
    | .ok () => .done (.ok answer)
    | .error failure => .done (.error failure)

inductive JobRepository.Answers [Sha256] (repository : JobRepository) :
    JobCall → JobMemory → Except Failure JobAnswer → JobMemory → Prop
  | refused {call memory nowUnix eventId failure} :
      repository.prepare nowUnix eventId memory call = some (.error failure) →
      Answers repository call memory (.error failure) memory
  | replayed {call memory nowUnix eventId answer} :
      repository.prepare nowUnix eventId memory call = some (.ok (.replayed answer)) →
      Answers repository call memory (.ok answer) memory
  | enqueued {input memory reconciliationId record records} :
      enqueueReconciliation memory.reconciliations reconciliationId input = .ok (record, records) →
      Answers repository (.enqueue input) memory (.ok (.reconciliation record))
        { memory with reconciliations := records }
  | notEnqueued {input memory reconciliationId failure} :
      enqueueReconciliation memory.reconciliations reconciliationId input = .error failure →
      Answers repository (.enqueue input) memory (.error failure) memory
  | updated {input memory record records} :
      updateReconciliation repository.reconcilerAddresses memory.reconciliations input = .ok (record, records) →
      Answers repository (.update input) memory (.ok (.reconciliation record))
        { memory with reconciliations := records }
  | notUpdated {input memory failure} :
      updateReconciliation repository.reconcilerAddresses memory.reconciliations input = .error failure →
      Answers repository (.update input) memory (.error failure) memory

inductive JobRepository.Joins [Sha256] (repository : JobRepository) : JobCall → JobMemory → JobWork → Prop
  | commits {call memory nowUnix eventId input answer} :
      repository.prepare nowUnix eventId memory call = some (.ok (.commits input answer)) →
      Joins repository call memory (commitThen input answer)
  | transaction {memory work} : Joins repository (.transaction work) memory work

inductive JobRepository.Commits [Sha256] (repository : JobRepository) (input : CommitInput) :
    JobMemory → Except Failure Unit → JobMemory → Prop
  | committed {memory nowUnix after} : repository.commit nowUnix memory input = .ok after →
      Commits repository input memory (.ok ()) after
  | refused {memory nowUnix failure} : repository.commit nowUnix memory input = .error failure →
      Commits repository input memory (.error failure) memory

def JobRepository.service [Sha256] (repository : JobRepository) :
    Serialized JobMemory JobCall CommitInput (fun _ => Except Failure Unit) (Except Failure JobAnswer) where
  answers := repository.Answers
  joins := repository.Joins
  exec := repository.Commits
  failed result := ∃ failure, result = .error failure

abbrev JobProcess := Process JobMemory JobCall CommitInput (fun _ => Except Failure Unit) (Except Failure JobAnswer)

def JobMemory.empty : JobMemory := ⟨.empty, .empty, .empty, .empty⟩

end

theorem parseIdempotencyKeyText_eq_ok {text : String} {key : IdempotencyKey} :
    parseIdempotencyKeyText text = .ok key ↔ trim text = key.text := by
  unfold parseIdempotencyKeyText check
  by_cases accepted : isIdempotencyKeyText (trim text) = true
  · rw [dif_pos accepted]
    constructor
    · intro same
      exact congrArg Checked.text (Except.ok.inj same)
    · intro same
      exact congrArg Except.ok (Checked.ext same)
  · rw [dif_neg accepted]
    constructor
    · exact nofun
    · intro same
      exact absurd (same ▸ key.accepted) accepted

theorem parseIdempotencyKeyText_text (key : IdempotencyKey) : parseIdempotencyKeyText key.text = .ok key :=
  parseIdempotencyKeyText_eq_ok.mpr (trim_eq_self key.clean)

theorem trustedNowUnix_eq_ok {nowUnix : Int} {time : UnixSeconds} :
    trustedNowUnix nowUnix = .ok time ↔ time.value = nowUnix := by
  unfold trustedNowUnix within?
  by_cases bounds : 1 ≤ nowUnix ∧ nowUnix ≤ maxSafeInteger
  · rw [dif_pos bounds]
    constructor
    · intro same
      exact (congrArg Within.value (Except.ok.inj same)).symm
    · intro same
      exact congrArg Except.ok (Within.ext same.symm)
  · rw [dif_neg bounds]
    constructor
    · exact nofun
    · intro same
      exact absurd ⟨same ▸ time.low_le, same ▸ time.le_high⟩ bounds

section
variable [Sha256] {repository : JobRepository} {nowUnix : Int} {eventId : Uuid} {memory after : JobMemory}
  {input : CommitInput} {action : IdempotencyKey}

def IsExpected (current expected : Option JobRecord) : Prop :=
  current.map JobRecord.digest = expected.map JobRecord.digest

theorem assertExpectedJob_eq_ok {current expected : Option JobRecord} {done : Unit} :
    assertExpectedJob current expected = .ok done ↔ IsExpected current expected := by
  unfold assertExpectedJob IsExpected
  cases expected with
  | none =>
    rw [refuseIf_eq_ok]
    cases current <;> simp
  | some expected => rw [refuseIf_eq_ok, not_not, Option.map_some]

theorem assertUnused_eq_ok {done : Unit} : memory.assertUnused action input = .ok done ↔
    IsExpected (memory.jobs.get input.jobKey) input.expectedJob ∧
      memory.events.get input.event.eventKey = none ∧ memory.actions.get action.text = none := by
  simp only [JobMemory.assertUnused, bind_eq_ok, assertExpectedJob_eq_ok, refuseIf_eq_ok, exists_const, not_or,
    Bool.not_eq_true, Option.isSome_eq_false_iff, Option.isNone_iff_eq_none]
  constructor
  · rintro ⟨expected, _, _, unused⟩
    exact ⟨expected, unused⟩
  · rintro ⟨expected, noEvent, noAction⟩
    refine ⟨expected, ?_, ?_, noEvent, noAction⟩
    · rw [noEvent]
      rfl
    · rw [noAction]
      rfl

structure CommitValid (repository : JobRepository) (nowUnix : Int) (input : CommitInput) (action : IdempotencyKey) :
    Prop where
  key : trim input.actionKey = action.text
  job : ∃ persisted, input.job.parse = .ok persisted ∧
    assertDeploymentPinSnapshot persisted.deploymentPin persisted.deploymentPinDigest repository.deploymentPin = .ok () ∧
    assertPinMatchesJob persisted.terms repository.deploymentPin = .ok () ∧
    assertBudgetMatchesPin persisted.terms.budgetAtomic.text repository.deploymentPin = .ok () ∧
    ∃ terms, validateJobTerms persisted.terms repository.deploymentPin nowUnix = .ok terms
  time : IsTrustedTime nowUnix
  event : ∃ event, input.event.parse = .ok event
  ownJob : keyFor input.job.jobKey = input.jobKey
  ownEvent : keyFor input.event.jobKey = input.jobKey
  eventKey : input.event.eventKey = "action:" ++ action.text
  expected : ∀ expected, input.expectedJob = some expected → keyFor expected.jobKey = input.jobKey

theorem validateCommit_eq_ok :
    repository.validateCommit nowUnix input = .ok action ↔ CommitValid repository nowUnix input action := by
  simp only [JobRepository.validateCommit, bind_eq_ok, refuseIf_eq_ok, exists_const, parseIdempotencyKeyText_eq_ok,
    trustedNowUnix_eq_ok, not_or, not_not]
  constructor
  · rintro ⟨_, key, persisted, parsed, _, snapshot, _, pin, _, budget, time, rfl, terms, valid, event, read, bound,
      expected, same⟩
    cases Except.ok.inj same
    refine ⟨key, ⟨persisted, parsed, snapshot, pin, budget, terms, valid⟩, ⟨time.low_le, time.le_high⟩,
      ⟨event, read⟩, bound.1, bound.2.1, bound.2.2, fun job found => ?_⟩
    rw [found] at expected
    simpa using expected
  · intro valid
    obtain ⟨persisted, parsed, snapshot, pin, budget, terms, checked⟩ := valid.job
    obtain ⟨event, read⟩ := valid.event
    refine ⟨action, valid.key, persisted, parsed, (), snapshot, (), pin, (), budget,
      ⟨nowUnix, valid.time.1, valid.time.2⟩, rfl, terms, checked, event, read,
      ⟨valid.ownJob, valid.ownEvent, valid.eventKey⟩, ?_, rfl⟩
    cases found : input.expectedJob with
    | none => exact Bool.false_ne_true
    | some expected => simpa using valid.expected expected found

theorem commit_eq_ok : repository.commit nowUnix memory input = .ok after ↔
    ∃ action, CommitValid repository nowUnix input action ∧
      IsExpected (memory.jobs.get input.jobKey) input.expectedJob ∧
      memory.events.get input.event.eventKey = none ∧ memory.actions.get action.text = none ∧
      after = memory.committed action input := by
  simp only [JobRepository.commit, bind_eq_ok, validateCommit_eq_ok, assertUnused_eq_ok, exists_const]
  constructor
  · rintro ⟨action, valid, ⟨expected, noEvent, noAction⟩, same⟩
    exact ⟨action, valid, expected, noEvent, noAction, (Except.ok.inj same).symm⟩
  · rintro ⟨action, valid, expected, noEvent, noAction, rfl⟩
    exact ⟨action, valid, ⟨expected, noEvent, noAction⟩, rfl⟩

/-- Every commit writes a job under its own key and an event under the key of its action. -/
structure JobMemory.Consistent (memory : JobMemory) : Prop where
  jobs : ∀ key job, memory.jobs.get key = some job → keyFor job.jobKey = key
  events : ∀ key : String, (memory.events.get ("action:" ++ key)).isSome = (memory.actions.get key).isSome

omit [Sha256] in
theorem JobMemory.consistent_empty : JobMemory.empty.Consistent := by
  constructor
  · intro key job found
    have absent : JobMemory.empty.jobs.get key = none := rfl
    rw [absent] at found
    cases found
  · intro key
    rfl

theorem JobMemory.Consistent.committed (consistent : memory.Consistent)
    (committed : repository.commit nowUnix memory input = .ok after) : after.Consistent := by
  obtain ⟨action, valid, _, _, _, rfl⟩ := commit_eq_ok.mp committed
  constructor
  · intro key job found
    simp only [JobMemory.committed, OrderedMap.get_set] at found
    split at found
    · cases found
      rw [valid.ownJob, ‹key = _›]
    · exact consistent.jobs key job found
  · intro key
    simp only [JobMemory.committed, OrderedMap.get_set, valid.eventKey, String.append_right_inj]
    split
    · rfl
    · exact consistent.events key

open Interleaving

theorem JobRepository.reach_consistent {permits} {s : Process JobMemory JobCall CommitInput _ _}
    (reach : repository.service.Reach permits (· = .empty) s) : s.maps.Consistent := by
  refine (@Serialized.Reach.invariant _ _ _ _ _ _ _ _ _ JobMemory.Consistent reach ?_ ?_ ?_).1
  · rintro _ rfl
    exact JobMemory.consistent_empty
  · intro s call result maps _ answered consistent
    cases answered with
    | refused => exact consistent
    | replayed => exact consistent
    | enqueued => exact ⟨consistent.jobs, consistent.events⟩
    | notEnqueued => exact consistent
    | updated => exact ⟨consistent.jobs, consistent.events⟩
    | notUpdated => exact consistent
  · intro s call input answer maps _ executed consistent
    cases executed with
    | committed committed => exact consistent.committed committed
    | refused => exact consistent
end

end Bnbera
