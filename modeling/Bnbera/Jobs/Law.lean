import Bnbera.Jobs.Lifecycle

namespace Bnbera

def ActsAs (job : JobRecord) (role : ActorRole) (actorAddress : String) : Prop :=
  match role with
  | .any => True
  | .client => lower actorAddress = lower job.terms.clientAddress.text
  | .provider => ∃ provider, job.terms.providerAddress = some provider ∧ lower actorAddress = lower provider.text
  | .evaluator => lower actorAddress = lower job.terms.evaluatorAddress.text

def FollowsLaw (request : TransitionRequest) : Prop :=
  let job := request.job
  let actsAs := fun role => ActsAs job role request.actorAddress
  let beforeExpiry := request.nowUnix < job.terms.expiresAtUnix.value
  match request.nextState with
  | .opened => False
  | .funded => job.state = .opened ∧ actsAs .client ∧ beforeExpiry
  | .submitted => job.state = .funded ∧ actsAs .provider ∧ beforeExpiry
  | .completed => job.state = .submitted ∧ actsAs .evaluator ∧ beforeExpiry ∧ job.ApprovesDeliverable
  | .rejected => (job.state = .opened ∧ actsAs .client) ∨
      ((job.state = .funded ∨ job.state = .submitted) ∧ actsAs .evaluator)
  | .expired => (job.state = .funded ∨ job.state = .submitted) ∧ actsAs .client ∧ ¬beforeExpiry

/-- The cases in which the unguarded action `create`, which any client may name,
happens to be made by the right party at the right time. -/
def CreateWithinLaw (request : TransitionRequest) : Prop :=
  let job := request.job
  let client := lower job.terms.clientAddress.text
  let beforeExpiry := request.nowUnix < job.terms.expiresAtUnix.value
  match request.nextState with
  | .opened => True
  | .funded => beforeExpiry
  | .submitted => (∃ provider, job.terms.providerAddress = some provider ∧ lower provider.text = client) ∧ beforeExpiry
  | .completed => lower job.terms.evaluatorAddress.text = client ∧ beforeExpiry ∧ job.ApprovesDeliverable
  | .rejected => job.state = .opened ∨ lower job.terms.evaluatorAddress.text = client
  | .expired => True

theorem actorMatches_actsAs {job : JobRecord} {role : ActorRole} {actorAddress : String}
    (matched : actorMatches job role actorAddress = .ok true) : ActsAs job role actorAddress := by
  cases role with
  | any => trivial
  | client =>
    obtain ⟨actor, normal, same⟩ := map_eq_ok.mp matched
    exact (normalizeAddress_eq normal).symm.trans (of_decide_eq_true same)
  | provider =>
    obtain ⟨actor, normal, same⟩ := map_eq_ok.mp matched
    obtain ⟨provider, found, address⟩ := Option.map_eq_some_iff.mp (of_decide_eq_true same)
    exact ⟨provider, found, (normalizeAddress_eq normal).symm.trans address.symm⟩
  | evaluator =>
    obtain ⟨actor, normal, same⟩ := map_eq_ok.mp matched
    exact (normalizeAddress_eq normal).symm.trans (of_decide_eq_true same)

theorem assertActorForAction_actsAs {job : JobRecord} {action : JobAction} {actorAddress : String} {nowUnix : Int}
    (accepted : assertActorForAction job action actorAddress nowUnix = .ok ()) :
    ActsAs job (roleFor action job.state) actorAddress := by
  obtain ⟨allowed, matched, rest⟩ := bind_eq_ok.mp accepted
  have passed := (refuseIf_bind_eq_ok.mp rest).1
  rw [Bool.not_eq_false] at passed
  exact actorMatches_actsAs (passed ▸ matched)

theorem canTransition_cases {source target : JobState} (allowed : canTransition source target = true)
    (moves : source ≠ target) :
    (source = .opened ∧ (target = .funded ∨ target = .rejected)) ∨
    (source = .funded ∧ (target = .submitted ∨ target = .rejected ∨ target = .expired)) ∨
    (source = .submitted ∧ (target = .completed ∨ target = .rejected ∨ target = .expired)) := by
  cases source <;> cases target <;> simp_all [canTransition, allowedTransitions]

structure ActionAccepted (request : TransitionRequest) : Prop where
  alive : endsAtExpiry request.action = true → request.nowUnix < request.job.terms.expiresAtUnix.value
  allowed : canTransition request.job.state request.nextState = true
  notOpenMutation : request.action ≠ .setProvider ∧ request.action ≠ .setBudget
  fund : request.action = .fund → request.nextState = .funded
  submit : request.action = .submit → request.nextState = .submitted
  complete : request.action = .complete → request.nextState = .completed ∧ request.job.ApprovesDeliverable
  reject : request.action = .reject → request.nextState = .rejected
  claimRefund : request.action = .claimRefund → request.nextState = .expired
  actor : ActsAs request.job (roleFor request.action request.job.state) request.actorAddress
  expired : request.nextState = .expired → request.job.terms.expiresAtUnix.value ≤ request.nowUnix

theorem assertAction_accepted {request : TransitionRequest} (accepted : assertAction request = .ok ())
    (moves : request.nextState ≠ request.job.state) : ActionAccepted request := by
  obtain ⟨alive, accepted⟩ := refuseIf_bind_eq_ok.mp accepted
  obtain ⟨legal, accepted⟩ := refuseIf_bind_eq_ok.mp accepted
  obtain ⟨_, states, accepted⟩ := bind_eq_ok.mp accepted
  obtain ⟨_, actor, accepted⟩ := bind_eq_ok.mp accepted
  obtain ⟨notExpired, _⟩ := refuseIf_bind_eq_ok.mp accepted
  simp only [assertStatesForAction, refuseIf_bind_eq_ok, refuseIf_eq_ok] at states
  obtain ⟨fund, setProvider, setBudget, submit, complete, approved, reject, claimRefund⟩ := states
  have stays : ((request.action = .setProvider || request.action = .setBudget) && request.job.state = .opened &&
      request.nextState = .opened : Bool) = false := by
    simp only [Bool.and_eq_false_iff, decide_eq_false_iff_not]
    by_cases source : request.job.state = .opened
    · exact .inr fun target => moves (target.trans source.symm)
    · exact .inl (.inr source)
  rw [stays] at legal setProvider setBudget
  simp only [and_true, not_or, Bool.not_eq_false] at legal setProvider setBudget
  exact {
    alive := fun ends => by_contra fun late => alive ⟨ends, not_lt.mp late⟩
    allowed := legal.1
    notOpenMutation := ⟨setProvider, setBudget⟩
    fund := fun named => (not_not.mp fun other => fund ⟨named, other⟩).2
    submit := fun named => (not_not.mp fun other => submit ⟨named, other⟩).2
    complete := fun named => ⟨(not_not.mp fun other => complete ⟨named, other⟩).2,
      not_not.mp fun other => approved ⟨named, other⟩⟩
    reject := fun named => (not_not.mp fun other => reject ⟨named, other⟩).elim And.right And.right
    claimRefund := fun named => not_not.mp fun other => claimRefund ⟨named, .inr other⟩
    actor := assertActorForAction_actsAs actor
    expired := fun named => not_lt.mp fun early => notExpired ⟨named, early⟩ }

theorem assertErc8183Transition_action [Sha256] {request : TransitionRequest}
    (accepted : assertErc8183Transition request = .ok ()) (moves : request.nextState ≠ request.job.state) :
    request.action ≠ .reconcile ∧ assertAction request = .ok () := by
  obtain ⟨_, _, accepted⟩ := bind_eq_ok.mp accepted
  obtain ⟨_, _, accepted⟩ := bind_eq_ok.mp accepted
  obtain ⟨_, _, accepted⟩ := bind_eq_ok.mp accepted
  obtain ⟨_, _, accepted⟩ := bind_eq_ok.mp accepted
  obtain ⟨_, _, accepted⟩ := bind_eq_ok.mp accepted
  obtain ⟨_, accepted⟩ := refuseIf_bind_eq_ok.mp accepted
  split at accepted
  · obtain ⟨same, _⟩ := refuseIf_bind_eq_ok.mp accepted
    exact absurd (not_not.mp same) moves
  · exact ⟨‹_›, accepted⟩

/-- Every action with a guard of its own keeps the law. -/
theorem ActionAccepted.followsLaw {request : TransitionRequest} (accepted : ActionAccepted request)
    (moves : request.nextState ≠ request.job.state) (named : request.action ≠ .create)
    (other : request.action ≠ .reconcile) : FollowsLaw request := by
  have states := canTransition_cases accepted.allowed (Ne.symm moves)
  have actor := accepted.actor
  have alive := accepted.alive
  unfold FollowsLaw
  cases action : request.action with
  | create => exact absurd action named
  | reconcile => exact absurd action other
  | setProvider => exact absurd action accepted.notOpenMutation.1
  | setBudget => exact absurd action accepted.notOpenMutation.2
  | fund =>
    rw [action] at actor alive
    rw [accepted.fund action] at states ⊢
    have source : request.job.state = .opened := by simpa using states
    exact ⟨source, actor, alive rfl⟩
  | submit =>
    rw [action] at actor alive
    rw [accepted.submit action] at states ⊢
    have source : request.job.state = .funded := by simpa using states
    exact ⟨source, actor, alive rfl⟩
  | complete =>
    obtain ⟨target, approves⟩ := accepted.complete action
    rw [action] at actor alive
    rw [target] at states ⊢
    have source : request.job.state = .submitted := by simpa using states
    exact ⟨source, actor, alive rfl, approves⟩
  | reject =>
    rw [action] at actor
    rw [accepted.reject action] at states ⊢
    by_cases source : request.job.state = .opened
    · rw [source] at actor
      exact .inl ⟨source, actor⟩
    · have evaluator : roleFor .reject request.job.state = .evaluator := if_neg source
      rw [evaluator] at actor
      have later : request.job.state = .funded ∨ request.job.state = .submitted := by simpa [source] using states
      exact .inr ⟨later, actor⟩
  | claimRefund =>
    have target := accepted.claimRefund action
    rw [action] at actor
    rw [target] at states ⊢
    have source : request.job.state = .funded ∨ request.job.state = .submitted := by simpa using states
    exact ⟨source, actor, not_lt.mpr (accepted.expired target)⟩

/-- The action `create` has no guard but the table of states, the client role and the expiry of a refund. -/
theorem ActionAccepted.create_iff {request : TransitionRequest} (accepted : ActionAccepted request)
    (moves : request.nextState ≠ request.job.state) (named : request.action = .create) :
    FollowsLaw request ↔ CreateWithinLaw request := by
  have states := canTransition_cases accepted.allowed (Ne.symm moves)
  have client : lower request.actorAddress = lower request.job.terms.clientAddress.text := by
    have actor := accepted.actor
    rwa [named] at actor
  unfold FollowsLaw CreateWithinLaw
  cases target : request.nextState with
  | opened =>
    rw [target] at states
    simp at states
  | funded =>
    have source : request.job.state = .opened := by simpa [target] using states
    exact ⟨fun law => law.2.2, fun early => ⟨source, client, early⟩⟩
  | submitted =>
    have source : request.job.state = .funded := by simpa [target] using states
    constructor
    · rintro ⟨_, ⟨provider, assigned, same⟩, early⟩
      exact ⟨⟨provider, assigned, same.symm.trans client⟩, early⟩
    · rintro ⟨⟨provider, assigned, same⟩, early⟩
      exact ⟨source, ⟨provider, assigned, client.trans same.symm⟩, early⟩
  | completed =>
    have source : request.job.state = .submitted := by simpa [target] using states
    constructor
    · rintro ⟨_, evaluator, early, approves⟩
      exact ⟨Eq.trans (Eq.symm evaluator) client, early, approves⟩
    · rintro ⟨evaluator, early, approves⟩
      exact ⟨source, client.trans evaluator.symm, early, approves⟩
  | rejected =>
    constructor
    · rintro (⟨source, _⟩ | ⟨_, evaluator⟩)
      · exact .inl source
      · exact .inr (Eq.trans (Eq.symm evaluator) client)
    · intro within
      by_cases source : request.job.state = .opened
      · exact .inl ⟨source, client⟩
      · have later : request.job.state = .funded ∨ request.job.state = .submitted := by
          simpa [target, source] using states
        exact .inr ⟨later, client.trans (within.resolve_left source).symm⟩
  | expired =>
    have source : request.job.state = .funded ∨ request.job.state = .submitted := by simpa [target] using states
    exact ⟨fun _ => trivial, fun _ => ⟨source, client, not_lt.mpr (accepted.expired target)⟩⟩

/-- An accepted change of state keeps to the law unless it is named `create` and made
by the wrong party or too late. -/
theorem assertErc8183Transition_law [Sha256] {request : TransitionRequest}
    (accepted : assertErc8183Transition request = .ok ()) (moves : request.nextState ≠ request.job.state) :
    FollowsLaw request ↔ (request.action ≠ .create ∨ CreateWithinLaw request) := by
  obtain ⟨other, accepted⟩ := assertErc8183Transition_action accepted moves
  have guards := assertAction_accepted accepted moves
  by_cases named : request.action = .create
  · rw [guards.create_iff moves named]
    exact ⟨.inr, fun within => within.resolve_left (not_not.mpr named)⟩
  · exact ⟨fun _ => .inl named, fun _ => guards.followsLaw moves named other⟩

def sampleAddress (digit : Char) (hex : isAddress (String.ofList ('0' :: 'x' :: List.replicate 40 digit)) = true) :
    NonZeroAddress := ⟨_, hex⟩

def clientAddress : NonZeroAddress := sampleAddress '1' (by decide +kernel)
def providerAddress : NonZeroAddress := sampleAddress '2' (by decide +kernel)
def evaluatorAddress : NonZeroAddress := sampleAddress '3' (by decide +kernel)
def commerceAddress : NonZeroAddress := sampleAddress '4' (by decide +kernel)
def tokenAddress : NonZeroAddress := sampleAddress '5' (by decide +kernel)

def samplePinDigest : ContentDigest :=
  ⟨"74234e98afe7498fb5daf1f36ac2d78acc339464f950703b8c019892f982b90b", by decide +kernel⟩

def samplePin : EnabledDeploymentPin where
  chainId := .mainnet
  specRevision := "erc-8183"
  commerceContract := commerceAddress
  paymentToken := tokenAddress
  paymentDecimals := ⟨18, by decide, by decide⟩
  abiHash := samplePinDigest
  evaluatorProfile := "platform"
  confirmationThreshold := ⟨1, by decide, by decide⟩
  minExpiryLeadSeconds := ⟨60, by decide, by decide⟩
  maxExpiryHorizonSeconds := ⟨1000, by decide, by decide⟩
  minBudgetAtomic := ⟨"1", by decide +kernel⟩
  maxBudgetAtomic := ⟨"100", by decide +kernel⟩

/-- A job of three parties with a budget of ten units, which expires at 1000. -/
def sampleJob (state : JobState) : JobRecord where
  jobKey := ⟨.mainnet, commerceAddress, ⟨"7", by decide +kernel⟩⟩
  terms := {
    chainId := .mainnet
    commerceContract := commerceAddress
    paymentToken := tokenAddress
    paymentDecimals := ⟨18, by decide, by decide⟩
    clientAddress := clientAddress
    providerAddress := some providerAddress
    evaluatorAddress := evaluatorAddress
    hookAddress := none
    budgetAtomic := ⟨"10", by decide +kernel⟩
    descriptionDigest := samplePinDigest
    expiresAtUnix := ⟨1000, by decide, by decide⟩ }
  deploymentPin := samplePin
  deploymentPinDigest := samplePinDigest
  state := state
  createdAtUnix := ⟨100, by decide, by decide⟩
  updatedAtUnix := ⟨100, by decide, by decide⟩
  deliverableDigest := none
  providerBinding := none
  buyerApproval := none
  fundingTransactionHash := none
  submissionTransactionHash := none
  completionTransactionHash := none
  rejectionTransactionHash := none
  refundTransactionHash := none
  lastObservedBlock := none
  lastObservedBlockHash := none
  lastObservedAtUnix := none

def clientRequest (action : JobAction) (state nextState : JobState) : TransitionRequest where
  job := sampleJob state
  deploymentPin := .enabled samplePin
  nextState := nextState
  action := action
  actorAddress := clientAddress.text
  nowUnix := 200
  reconcilerAddresses := []

theorem assertErc8183Transition_law_fund :
    let _ := nullSha256
    FollowsLaw (clientRequest .fund .opened .funded) := by
  intro _
  have accepted : assertErc8183Transition (clientRequest .fund .opened .funded) = .ok () := by decide +kernel
  exact (assertErc8183Transition_law accepted (by decide)).mpr (.inl (by decide))

/-- The client moves a funded job to submitted, although the work is another party's. -/
theorem create_submits_for_provider :
    let _ := nullSha256
    assertErc8183Transition (clientRequest .create .funded .submitted) = .ok () ∧
      ¬FollowsLaw (clientRequest .create .funded .submitted) := by
  intro _
  refine ⟨by decide +kernel, ?_⟩
  rintro ⟨_, ⟨provider, assigned, same⟩, _⟩
  cases Option.some.inj assigned
  exact absurd same (by decide +kernel)

end Bnbera
