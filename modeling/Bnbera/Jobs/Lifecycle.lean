import Bnbera.Validation
import Bnbera.Jobs.Validation

namespace Bnbera

def allowedTransitions : JobState → List JobState
  | .opened => [.funded, .rejected]
  | .funded => [.submitted, .rejected, .expired]
  | .submitted => [.completed, .rejected, .expired]
  | .completed => []
  | .rejected => []
  | .expired => []

def canTransition (source target : JobState) : Bool := source = target || (allowedTransitions source).contains target

inductive ActorRole
  | client
  | provider
  | evaluator
  | any
deriving DecidableEq

def actorMatches (job : JobRecord) (role : ActorRole) (actorAddress : String) : Except Failure Bool :=
  match role with
  | .any => .ok true
  | .client => (normalizeAddress actorAddress "actor address").map fun actor =>
      actor.text = job.terms.clientAddress.lowered.text
  | .provider => (normalizeAddress actorAddress "actor address").map fun actor =>
      (job.terms.providerAddress.map (·.lowered.text)) = some actor.text
  | .evaluator => (normalizeAddress actorAddress "actor address").map fun actor =>
      actor.text = job.terms.evaluatorAddress.lowered.text

def roleFor (action : JobAction) (state : JobState) : ActorRole :=
  match action with
  | .fund => .client
  | .setProvider => .client
  | .create => .client
  | .setBudget => .any
  | .submit => .provider
  | .complete => .evaluator
  | .reject => if state = .opened then .client else .evaluator
  | .claimRefund => .client
  | .reconcile => .any

def assertActorForAction (job : JobRecord) (action : JobAction) (actorAddress : String) (nowUnix : Int) :
    Except Failure Unit := do
  let allowed ← actorMatches job (roleFor action job.state) actorAddress
  refuseIf (allowed = false)
    (commerceError .unauthorizedActor ("Actor is not authorized for ERC-8183 action " ++ action.text ++ "."))
  if action = .setBudget then
    let isClient ← actorMatches job .client actorAddress
    let isProvider ← actorMatches job .provider actorAddress
    refuseIf (isClient = false ∧ isProvider = false)
      (commerceError .unauthorizedActor "Only the client or assigned provider may set the job budget.")
  refuseIf (action = .claimRefund ∧ nowUnix < job.terms.expiresAtUnix.value)
    (commerceError .invalidExpiry "A refund can be claimed only after the job expiry.")

/-- What `assertErc8183Transition` is asked. The list of reconcilers is trusted, the rest is not. -/
structure TransitionRequest where
  job : JobRecord
  deploymentPin : DeploymentPin
  nextState : JobState
  action : JobAction
  actorAddress : String
  nowUnix : Int
  reconcilerAddresses : List String

/-- `candidates.some((candidate) => normalizeAddress(candidate) === actor)` -/
def anyReconciler (actor : Address) : List String → Except Failure Bool
  | [] => .ok false
  | candidate :: rest => do
    let address ← normalizeAddress candidate "reconciler address"
    if address = actor then .ok true else anyReconciler actor rest

def assertReconciliation (request : TransitionRequest) : Except Failure Unit := do
  refuseIf (request.nextState ≠ request.job.state)
    (commerceError .illegalTransition "Reconciliation cannot change the protocol state.")
  let actor ← normalizeAddress request.actorAddress "reconciler address"
  let trusted ← anyReconciler actor request.reconcilerAddresses
  refuseIf (trusted = false) (commerceError .unauthorizedActor
    "Only an authenticated system or configured reconciler may reconcile an ERC-8183 job.")

def endsAtExpiry : JobAction → Bool
  | .fund | .submit | .complete | .reject | .setProvider | .setBudget => true
  | .create | .claimRefund | .reconcile => false

/-- `job.buyerApproval !== null` and it approves the deliverable of the job. -/
def JobRecord.ApprovesDeliverable (job : JobRecord) : Prop :=
  ∃ approval deliverable, job.buyerApproval = some approval ∧ job.deliverableDigest = some deliverable ∧
    lower approval.resultDigest.text = lower deliverable.text

instance (job : JobRecord) : Decidable job.ApprovesDeliverable :=
  match approval : job.buyerApproval, deliverable : job.deliverableDigest with
  | some a, some d =>
    if same : lower a.resultDigest.text = lower d.text then .isTrue ⟨a, d, approval, deliverable, same⟩
    else .isFalse fun ⟨_, _, first, second, holds⟩ => by
      cases Option.some.inj (approval.symm.trans first)
      cases Option.some.inj (deliverable.symm.trans second)
      exact same holds
  | none, _ => .isFalse fun ⟨_, _, first, _⟩ => by cases approval.symm.trans first
  | some _, none => .isFalse fun ⟨_, _, _, second, _⟩ => by cases deliverable.symm.trans second

/-- The state each action must start from and lead to. -/
def assertStatesForAction (request : TransitionRequest) (isOpenMutation : Bool) : Except Failure Unit := do
  let state := request.job.state
  let nextState := request.nextState
  refuseIf (request.action = .fund ∧ ¬(state = .opened ∧ nextState = .funded))
    (commerceError .illegalTransition "Funding is only valid for an open job.")
  refuseIf (request.action = .setProvider ∧ isOpenMutation = false)
    (commerceError .illegalTransition "A provider can only be assigned while the job is open.")
  refuseIf (request.action = .setBudget ∧ isOpenMutation = false)
    (commerceError .illegalTransition "A budget can only be set while the job is open.")
  refuseIf (request.action = .submit ∧ ¬(state = .funded ∧ nextState = .submitted))
    (commerceError .illegalTransition "Only a funded job can be submitted.")
  refuseIf (request.action = .complete ∧ ¬(state = .submitted ∧ nextState = .completed))
    (commerceError .illegalTransition "Only a submitted job can be completed by its evaluator.")
  refuseIf (request.action = .complete ∧ ¬request.job.ApprovesDeliverable)
    (commerceError .reconciliationRequired
      "An authorized buyer approval bound to the submitted result is required before settlement." "approve_result")
  refuseIf (request.action = .reject ∧ ¬((state = .opened ∧ nextState = .rejected) ∨
      ((state = .funded ∨ state = .submitted) ∧ nextState = .rejected)))
    (commerceError .illegalTransition "Rejection is not valid from this state.")
  refuseIf (request.action = .claimRefund ∧ (¬(state = .funded ∨ state = .submitted) ∨ nextState ≠ .expired))
    (commerceError .illegalTransition "Refund is only valid for an expired funded or submitted job.")

/-- `assertErc8183Transition` for every action but `reconcile`. -/
def assertAction (request : TransitionRequest) : Except Failure Unit := do
  let state := request.job.state
  let nextState := request.nextState
  refuseIf (endsAtExpiry request.action = true ∧ request.job.terms.expiresAtUnix.value ≤ request.nowUnix)
    (commerceError .invalidExpiry
      ("ERC-8183 action " ++ request.action.text ++ " is not valid after the active job expiry."))
  let isOpenMutation := (request.action = .setProvider || request.action = .setBudget) && state = .opened &&
    nextState = .opened
  refuseIf ((canTransition state nextState = false ∨ state = nextState) ∧ isOpenMutation = false)
    (commerceError .illegalTransition
      ("Illegal ERC-8183 transition: " ++ state.text ++ " -> " ++ nextState.text ++ "."))
  assertStatesForAction request isOpenMutation
  assertActorForAction request.job request.action request.actorAddress request.nowUnix
  refuseIf (nextState = .expired ∧ request.nowUnix < request.job.terms.expiresAtUnix.value)
    (commerceError .invalidExpiry "The job has not reached its expiry.")
  refuseIf (nextState = .submitted ∧ request.job.terms.providerAddress = none)
    (commerceError .invalidJob "A provider must be assigned before submission.")

def assertErc8183Transition [Sha256] (request : TransitionRequest) : Except Failure Unit := do
  let _ ← request.job.parse
  let enabledPin ← parseEnabledDeploymentPin request.deploymentPin
  assertDeploymentPinSnapshot request.job.deploymentPin request.job.deploymentPinDigest enabledPin
  assertPinMatchesJob request.job.terms enabledPin
  assertBudgetMatchesPin request.job.terms.budgetAtomic.text enabledPin
  refuseIf (¬IsTrustedTime request.nowUnix)
    (commerceError .invalidExpiry "A trusted Unix timestamp is required for an ERC-8183 transition.")
  if request.action = .reconcile then assertReconciliation request else assertAction request

/-- What a caller may add to a transition. A provider address may be given as null. -/
structure ActionMetadata where
  deliverableDigest : Option String := none
  providerAddress : Option (Option String) := none
  budgetAtomic : Option String := none
  transactionHash : Option String := none
  blockNumber : Option String := none
  blockHash : Option String := none
  logIndex : Option Int := none
  payload : Option Json := none

def eventTypeFor (action : JobAction) (nextState : JobState) : JobEventType :=
  match action, nextState with
  | .setProvider, _ => .providerSet
  | .setBudget, _ => .budgetSet
  | .reconcile, _ => .reconciliationRequested
  | _, .funded => .jobFunded
  | _, .submitted => .jobSubmitted
  | _, .completed => .jobCompleted
  | _, .expired => .jobExpired
  | _, _ => .jobRejected

structure TransitionJobInput where
  request : TransitionRequest
  idempotencyKey : String
  metadata : ActionMetadata
  correlationId : String

/-- The terms after the two actions that change them. -/
def nextTerms (terms : JobTerms) (action : JobAction) (metadata : ActionMetadata) (pin : EnabledDeploymentPin) :
    Except Failure JobTerms :=
  match action with
  | .setProvider =>
    match metadata.providerAddress with
    | some (some text) => (normalizeAddress text "provider address").map fun address =>
        { terms with providerAddress := some ⟨address.text, address.valid⟩ }
    | _ => throwCommerce .invalidJob "Provider assignment requires a non-zero provider address."
  | .setBudget =>
    match metadata.budgetAtomic with
    | none => throwCommerce .invalidAmount "Budget update requires an atomic amount."
    | some text => do
      let _ ← parseAtomic text "Job budget"
      assertBudgetMatchesPin text pin
      match check isDecimal text with
      | some budget => .ok { terms with budgetAtomic := budget }
      | none => throwCommerce .invalidAmount "Job budget must be a non-negative decimal integer."
  | _ => .ok terms

/-- `metadata.field ?? job.field` of a field whose text the record's schema checks. -/
def textOr {accepts : String → Bool} (given : Option String) (kept : Option (Checked accepts)) :
    Option (Checked accepts) :=
  match given with
  | none => kept
  | some text => check accepts text

def ActionMetadata.issues (metadata : ActionMetadata) : List Issue :=
  nullableIssues isDigest ["deliverableDigest"] "Expected a 32-byte hexadecimal digest" metadata.deliverableDigest ++
  nullableIssues isDecimal ["lastObservedBlock"] "Expected a non-negative decimal integer" metadata.blockNumber ++
  nullableIssues isTransactionHash ["lastObservedBlockHash"] "Expected a 32-byte transaction hash" metadata.blockHash

def nextJob (job : JobRecord) (terms : JobTerms) (nextState : JobState) (metadata : ActionMetadata)
    (nowUnix : UnixSeconds) : JobRecord :=
  let hashFor (state : JobState) (kept : Option TransactionHash) :=
    if nextState = state then textOr metadata.transactionHash kept else kept
  { job with
    terms := terms
    state := nextState
    updatedAtUnix := nowUnix
    deliverableDigest := textOr metadata.deliverableDigest job.deliverableDigest
    fundingTransactionHash := hashFor .funded job.fundingTransactionHash
    submissionTransactionHash := hashFor .submitted job.submissionTransactionHash
    completionTransactionHash := hashFor .completed job.completionTransactionHash
    rejectionTransactionHash := hashFor .rejected job.rejectionTransactionHash
    refundTransactionHash := hashFor .expired job.refundTransactionHash
    lastObservedBlock := textOr metadata.blockNumber job.lastObservedBlock
    lastObservedBlockHash := textOr metadata.blockHash job.lastObservedBlockHash
    lastObservedAtUnix := some nowUnix }

def TransitionJobInput.eventInput (input : TransitionJobInput) (nowUnix : UnixSeconds) : JobEventInput where
  eventKey := "action:" ++ input.idempotencyKey
  jobKey := input.request.job.jobKey
  eventType := eventTypeFor input.request.action input.request.nextState
  previousState := some input.request.job.state
  nextState := some input.request.nextState
  actorAddress := some input.request.actorAddress
  transactionHash := input.metadata.transactionHash
  blockNumber := input.metadata.blockNumber
  blockHash := input.metadata.blockHash
  logIndex := input.metadata.logIndex
  payload := input.metadata.payload
  correlationId := input.correlationId
  observedAtUnix := nowUnix

def transitionErc8183Job [Sha256] (eventId : Uuid) (input : TransitionJobInput) :
    Except Failure (JobRecord × JobEvent) := do
  let request := input.request
  assertErc8183Transition request
  let enabledPin ← parseEnabledDeploymentPin request.deploymentPin
  refuseIf (input.metadata.deliverableDigest.isSome ∧ request.nextState ≠ .submitted)
    (commerceError .invalidJob "Deliverable digest is only valid when submitting work.")
  refuseIf (input.metadata.transactionHash.any fun text => !isTransactionHash text)
    (commerceError .invalidJob "Transaction references must be 32-byte hashes.")
  let _ ← parseAtomic request.job.terms.budgetAtomic.text "Job budget"
  let terms ← nextTerms request.job.terms request.action input.metadata enabledPin
  match within? 1 maxSafeInteger request.nowUnix with
  | none => throwCommerce .invalidExpiry "A trusted Unix timestamp is required for an ERC-8183 transition."
  | some nowUnix =>
    let event ← createErc8183JobEvent eventId (input.eventInput nowUnix)
    let next := (nextJob request.job terms request.nextState input.metadata nowUnix).trimmed
    let issues := input.metadata.issues ++ next.issues
    if issues = [] then return (next, event) else .error (.zod issues)

structure ApprovalInput where
  job : JobRecord
  actorAddress : String
  resultDigest : String
  nowUnix : Int

/-- Persist explicit buyer approval for exactly the submitted deliverable. -/
def approveErc8183Result [Sha256] (input : ApprovalInput) : Except Failure JobRecord := do
  let job ← input.job.parse
  let actor ← normalizeAddress input.actorAddress "buyer address"
  refuseIf (job.state ≠ .submitted)
    (commerceError .illegalTransition "Only a submitted job result can be approved.")
  refuseIf (actor.text ≠ job.terms.clientAddress.lowered.text)
    (commerceError .unauthorizedActor "Only the job client may approve the result.")
  match (TextFormat.normalize _ input.resultDigest : Option Digest) with
  | none => throwCommerce .invalidJob "The buyer approval must reference a 32-byte result digest."
  | some resultDigest =>
    refuseIf (job.deliverableDigest.map (lower ·.text) ≠ some resultDigest.text)
      (commerceError .onchainMismatch "Buyer approval must match the submitted deliverable digest.")
    match within? 1 maxSafeInteger input.nowUnix with
    | none => throwCommerce .invalidExpiry "A trusted Unix timestamp is required for buyer approval."
    | some nowUnix =>
      match job.buyerApproval with
      | some approval =>
        refuseIf (lower approval.buyerAddress.text ≠ actor.text ∨ lower approval.resultDigest.text ≠ resultDigest.text)
          (commerceError .idempotencyConflict "A different buyer approval is already persisted for this result.")
        return job
      | none =>
        JobRecord.parse { job with
          buyerApproval := some ⟨⟨actor.text, actor.valid⟩, .ofDigest resultDigest, nowUnix⟩
          updatedAtUnix := nowUnix }

theorem EnabledDeploymentPin.trimmed_trimmed (pin : EnabledDeploymentPin) : pin.trimmed.trimmed = pin.trimmed := by
  simp only [EnabledDeploymentPin.trimmed, trim_trim]

theorem ProviderBinding.trimmed_trimmed (binding : ProviderBinding) : binding.trimmed.trimmed = binding.trimmed := by
  simp only [ProviderBinding.trimmed, trim_trim]

@[simp] theorem JobRecord.trimmed_trimmed (job : JobRecord) : job.trimmed.trimmed = job.trimmed := by
  have binding : ProviderBinding.trimmed ∘ ProviderBinding.trimmed = ProviderBinding.trimmed :=
    funext ProviderBinding.trimmed_trimmed
  simp only [JobRecord.trimmed, EnabledDeploymentPin.trimmed_trimmed, Option.map_map, binding]

@[simp] theorem JobEvent.trimmed_trimmed (event : JobEvent) : event.trimmed.trimmed = event.trimmed := by
  simp only [JobEvent.trimmed, trim_trim]

theorem JobRecord.parse_eq_ok [Sha256] {job parsed : JobRecord} :
    job.parse = .ok parsed ↔ job.trimmed.issues = [] ∧ parsed = job.trimmed := by
  unfold JobRecord.parse
  by_cases clean : job.trimmed.issues = []
  · rw [if_pos clean, Except.ok.injEq, eq_comm, and_iff_right clean]
  · rw [if_neg clean]
    constructor
    · exact nofun
    · intro holds
      exact absurd holds.1 clean

theorem JobEvent.parse_eq_ok {event parsed : JobEvent} :
    event.parse = .ok parsed ↔ event.trimmed.issues = [] ∧ parsed = event.trimmed := by
  unfold JobEvent.parse
  by_cases clean : event.trimmed.issues = []
  · rw [if_pos clean, Except.ok.injEq, eq_comm, and_iff_right clean]
  · rw [if_neg clean]
    constructor
    · exact nofun
    · intro holds
      exact absurd holds.1 clean

theorem keyFor_normalizeJobKey_text (key : JobKey) : lower (normalizeJobKey key).commerceContract.text =
    lower key.commerceContract.text := lower_lower _

theorem parseEnabledDeploymentPin_trimmed (pin : EnabledDeploymentPin) :
    parseEnabledDeploymentPin (.enabled pin.trimmed) = parseEnabledDeploymentPin (.enabled pin) := by
  have consistent : pin.trimmed.Consistent ↔ pin.Consistent := Iff.rfl
  simp only [parseEnabledDeploymentPin, EnabledDeploymentPin.trimmed_trimmed, consistent]

theorem assertDeploymentPinSnapshot_trimmed [Sha256] (snapshot : EnabledDeploymentPin) (digest : ContentDigest)
    (trustedPin : EnabledDeploymentPin) : assertDeploymentPinSnapshot snapshot.trimmed digest trustedPin =
      assertDeploymentPinSnapshot snapshot digest trustedPin := by
  simp only [assertDeploymentPinSnapshot, parseEnabledDeploymentPin_trimmed]

theorem normalizeJobTerms_eq_ok {terms normalized : JobTerms} {pin : EnabledDeploymentPin}
    (parsed : parseEnabledDeploymentPin (.enabled pin) = .ok pin) :
    normalizeJobTerms terms pin = .ok normalized ↔ assertPinMatchesJob terms pin = .ok () ∧
      assertBudgetMatchesPin terms.budgetAtomic.text pin = .ok () ∧ normalized = terms.lowered := by
  simp only [normalizeJobTerms, parsed, bind_eq_ok, Except.ok.injEq, exists_eq_left']
  constructor
  · rintro ⟨_, matched, _, budget, same⟩
    exact ⟨matched, budget, (Except.ok.inj same).symm⟩
  · rintro ⟨matched, budget, rfl⟩
    exact ⟨(), matched, (), budget, rfl⟩

/-- Valid terms: those of the pin, with an expiry that leaves the lead and keeps within the horizon. -/
theorem validateJobTerms_eq_ok {terms valid : JobTerms} {pin : EnabledDeploymentPin} {nowUnix : Int}
    (parsed : parseEnabledDeploymentPin (.enabled pin) = .ok pin) :
    validateJobTerms terms pin nowUnix = .ok valid ↔
      assertPinMatchesJob terms pin = .ok () ∧ assertBudgetMatchesPin terms.budgetAtomic.text pin = .ok () ∧
        IsTrustedTime nowUnix ∧ nowUnix + pin.minExpiryLeadSeconds.value < terms.expiresAtUnix.value ∧
        terms.expiresAtUnix.value ≤ nowUnix + pin.maxExpiryHorizonSeconds.value ∧ valid = terms.lowered := by
  simp only [validateJobTerms, bind_eq_ok, parsed, normalizeJobTerms_eq_ok parsed, Except.ok.injEq, exists_eq_left']
  constructor
  · rintro ⟨_, ⟨matched, budget, rfl⟩, checked⟩
    split at checked
    · cases checked
    · rename_i lead
      split at checked
      · cases checked
      · rename_i horizon
        rw [not_or, not_not, not_le] at lead
        exact ⟨matched, budget, lead.1, lead.2, not_lt.mp horizon, (Except.ok.inj checked).symm⟩
  · rintro ⟨matched, budget, time, lead, horizon, rfl⟩
    have kept : ¬(¬IsTrustedTime nowUnix ∨
        terms.lowered.expiresAtUnix.value ≤ nowUnix + pin.minExpiryLeadSeconds.value) := by
      rw [not_or, not_not, not_le]
      exact ⟨time, lead⟩
    have within : ¬nowUnix + pin.maxExpiryHorizonSeconds.value < terms.lowered.expiresAtUnix.value := not_lt.mpr horizon
    refine ⟨_, ⟨matched, budget, rfl⟩, ?_⟩
    rw [if_neg kept, if_neg within]
    rfl

structure SameAgreement (before after : JobTerms) : Prop where
  chainId : after.chainId = before.chainId
  commerceContract : after.commerceContract = before.commerceContract
  paymentToken : after.paymentToken = before.paymentToken
  paymentDecimals : after.paymentDecimals = before.paymentDecimals
  clientAddress : after.clientAddress = before.clientAddress
  evaluatorAddress : after.evaluatorAddress = before.evaluatorAddress
  expiresAtUnix : after.expiresAtUnix = before.expiresAtUnix

theorem SameAgreement.refl (terms : JobTerms) : SameAgreement terms terms := ⟨rfl, rfl, rfl, rfl, rfl, rfl, rfl⟩

theorem assertPinMatchesJob_agreement {before after : JobTerms} (same : SameAgreement before after)
    (pin : EnabledDeploymentPin) : assertPinMatchesJob after pin = assertPinMatchesJob before pin := by
  simp only [assertPinMatchesJob, same.chainId, same.commerceContract, same.paymentToken, same.paymentDecimals]

structure EventCreated (input : JobEventInput) (event : JobEvent) : Prop where
  eventKey : event.eventKey = trim input.eventKey
  jobKey : event.jobKey = normalizeJobKey input.jobKey
  eventType : event.eventType = input.eventType
  previousState : event.previousState = input.previousState
  nextState : event.nextState = input.nextState
  confirmationState : event.confirmationState = .canonical
  transactionHash : event.transactionHash.map (·.text) = input.transactionHash
  parsed : event.parse = .ok event

theorem createErc8183JobEvent_created [Sha256] {eventId : Uuid} {input : JobEventInput} {event : JobEvent}
    (created : createErc8183JobEvent eventId input = .ok event) : EventCreated input event := by
  obtain ⟨_, _, rest⟩ := bind_eq_ok.mp created
  obtain ⟨_, _, rest⟩ := bind_eq_ok.mp rest
  split at rest
  · rename_i hash block blockHash transactionHash _ _ clean
    cases Except.ok.inj rest
    simp only [JobEventInput.issues, List.append_eq_nil_iff] at clean
    obtain ⟨⟨⟨⟨⟨key, _⟩, _⟩, _⟩, _⟩, correlation⟩ := clean
    refine ⟨rfl, rfl, rfl, rfl, rfl, rfl, checkNullable_text transactionHash, ?_⟩
    rw [JobEvent.parse_eq_ok]
    simp only [JobEvent.trimmed, trim_trim, JobEvent.issues, key, correlation, List.append_nil, and_self]
  · cases rest

/-- An accepted transition: the guards passed, and what the next job and the event are. -/
structure TransitionAccepted [Sha256] (input : TransitionJobInput) (job : JobRecord) (event : JobEvent) : Prop where
  asserted : assertErc8183Transition input.request = .ok ()
  made : ∃ pin terms nowUnix, parseEnabledDeploymentPin input.request.deploymentPin = .ok pin ∧
    nextTerms input.request.job.terms input.request.action input.metadata pin = .ok terms ∧
    job = (nextJob input.request.job terms input.request.nextState input.metadata nowUnix).trimmed
  parsed : job.parse = .ok job
  event : ∃ nowUnix, EventCreated (input.eventInput nowUnix) event

theorem transitionErc8183Job_accepted [Sha256] {eventId : Uuid} {input : TransitionJobInput} {job : JobRecord}
    {event : JobEvent} (accepted : transitionErc8183Job eventId input = .ok (job, event)) :
    TransitionAccepted input job event := by
  obtain ⟨_, asserted, rest⟩ := bind_eq_ok.mp accepted
  obtain ⟨pin, pinned, rest⟩ := bind_eq_ok.mp rest
  obtain ⟨_, rest⟩ := refuseIf_bind_eq_ok.mp rest
  obtain ⟨_, rest⟩ := refuseIf_bind_eq_ok.mp rest
  obtain ⟨_, _, rest⟩ := bind_eq_ok.mp rest
  obtain ⟨terms, termed, rest⟩ := bind_eq_ok.mp rest
  split at rest
  · cases rest
  · rename_i nowUnix _
    obtain ⟨_, created, rest⟩ := bind_eq_ok.mp rest
    dsimp only at rest
    split at rest
    · rename_i clean
      cases Except.ok.inj rest
      have issues := (List.append_eq_nil_iff.mp clean).2
      refine ⟨asserted, ⟨pin, terms, nowUnix, pinned, termed, rfl⟩, ?_, nowUnix, createErc8183JobEvent_created created⟩
      rw [JobRecord.parse_eq_ok, JobRecord.trimmed_trimmed]
      exact ⟨issues, rfl⟩
    · cases rest

theorem nextTerms_agreement {terms after : JobTerms} {action : JobAction} {metadata : ActionMetadata}
    {pin : EnabledDeploymentPin} (next : nextTerms terms action metadata pin = .ok after) :
    SameAgreement terms after ∧
      (after.budgetAtomic = terms.budgetAtomic ∨ assertBudgetMatchesPin after.budgetAtomic.text pin = .ok ()) := by
  unfold nextTerms at next
  split at next
  · split at next
    · obtain ⟨_, _, rfl⟩ := map_eq_ok.mp next
      exact ⟨⟨rfl, rfl, rfl, rfl, rfl, rfl, rfl⟩, .inl rfl⟩
    · cases next
  · split at next
    · cases next
    · rename_i text _
      obtain ⟨_, _, rest⟩ := bind_eq_ok.mp next
      obtain ⟨_, budget, rest⟩ := bind_eq_ok.mp rest
      split at rest
      · rename_i checked found
        cases Except.ok.inj rest
        have same : checked.text = text := by
          unfold check at found
          split at found
          · cases found
            rfl
          · cases found
        exact ⟨⟨rfl, rfl, rfl, rfl, rfl, rfl, rfl⟩, .inr (same.symm ▸ budget)⟩
      · cases rest
  · cases next
    exact ⟨.refl terms, .inl rfl⟩

end Bnbera
