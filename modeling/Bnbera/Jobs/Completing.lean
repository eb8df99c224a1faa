import Bnbera.Jobs.Alone

namespace Bnbera

/-- The inputs beside the request are in their documented formats; a digest comes only with a submission. -/
structure TransitionJobInput.Documented (input : TransitionJobInput) : Prop where
  deliverableDigest : ∀ text, input.metadata.deliverableDigest = some text →
    isDigest text = true ∧ input.request.action = .submit
  transactionHash : ∀ text, input.metadata.transactionHash = some text → isTransactionHash text = true
  blockNumber : ∀ text, input.metadata.blockNumber = some text → isDecimal text = true
  blockHash : ∀ text, input.metadata.blockHash = some text → isTransactionHash text = true
  logIndex : ∀ index, input.metadata.logIndex = some index → 0 ≤ index
  payload : assertPublicPayloadSafe "payload" (payloadOrEmpty input.metadata.payload) = .ok ()
  providerAddress : input.request.action = .setProvider → ∃ text address,
    input.metadata.providerAddress = some (some text) ∧ normalizeAddress text "provider address" = .ok address
  budgetAtomic : input.request.action = .setBudget → ∃ text, input.metadata.budgetAtomic = some text ∧
    ∀ pin, parseEnabledDeploymentPin input.request.deploymentPin = .ok pin → assertBudgetMatchesPin text pin = .ok ()
  idempotencyKey : lengthIssues ["eventKey"] 1 240 (trim ("action:" ++ input.idempotencyKey)) = []
  correlationId : lengthIssues ["correlationId"] 1 160 (trim input.correlationId) = []

def Completes [Sha256] (eventId : Uuid) (input : TransitionJobInput) : Prop :=
  ∃ job event, transitionErc8183Job eventId input = .ok (job, event) ∧ job.state = input.request.nextState ∧
    job.parse = .ok job ∧ event.previousState = some input.request.job.state

theorem normalizeAddress_label {value label : String} {address : Address}
    (read : normalizeAddress value label = .ok address) (other : String) : normalizeAddress value other = .ok address := by
  unfold normalizeAddress at read ⊢
  split at read
  · exact read
  · cases read

section
variable {job : JobRecord} {role : ActorRole} {action : JobAction} {actorAddress : String} {nowUnix : Int}

theorem actorMatches_address {allowed : Bool} (matched : actorMatches job role actorAddress = .ok allowed)
    (named : role ≠ .any) : ∃ actor, normalizeAddress actorAddress "actor address" = .ok actor := by
  cases role with
  | any => exact absurd rfl named
  | client =>
    obtain ⟨actor, read, _⟩ := map_eq_ok.mp matched
    exact ⟨actor, read⟩
  | provider =>
    obtain ⟨actor, read, _⟩ := map_eq_ok.mp matched
    exact ⟨actor, read⟩
  | evaluator =>
    obtain ⟨actor, read, _⟩ := map_eq_ok.mp matched
    exact ⟨actor, read⟩

theorem assertActorForAction_address (accepted : assertActorForAction job action actorAddress nowUnix = .ok ())
    (other : action ≠ .reconcile) : ∃ actor, normalizeAddress actorAddress "actor address" = .ok actor := by
  obtain ⟨allowed, matched, rest⟩ := bind_eq_ok.mp accepted
  obtain ⟨_, rest⟩ := refuseIf_bind_eq_ok.mp rest
  by_cases budget : action = .setBudget
  · rw [if_pos budget] at rest
    obtain ⟨isClient, client, _⟩ := bind_eq_ok.mp rest
    exact actorMatches_address client (by decide)
  · have named : roleFor action job.state ≠ .any := by
      by_cases opened : job.state = .opened
      · cases action <;> simp_all [roleFor]
      · cases action <;> simp_all [roleFor]
    exact actorMatches_address matched named

end

theorem assertBudgetMatchesPin_parsed {budgetAtomic : String} {pin : EnabledDeploymentPin}
    (matched : assertBudgetMatchesPin budgetAtomic pin = .ok ()) :
    ∃ budget, parseAtomic budgetAtomic "Job budget" = .ok budget := by
  obtain ⟨budget, parsed, _⟩ := bind_eq_ok.mp matched
  exact ⟨budget, parsed⟩

structure RequestAccepted [Sha256] (request : TransitionRequest) : Prop where
  clean : request.job.trimmed.issues = []
  pinned : ∃ pin, parseEnabledDeploymentPin request.deploymentPin = .ok pin
  budget : ∃ amount, parseAtomic request.job.terms.budgetAtomic.text "Job budget" = .ok amount
  time : IsTrustedTime request.nowUnix
  reconciles : request.action = .reconcile → assertReconciliation request = .ok ()
  acts : request.action ≠ .reconcile → assertAction request = .ok ()

theorem assertErc8183Transition_passed [Sha256] {request : TransitionRequest}
    (accepted : assertErc8183Transition request = .ok ()) : RequestAccepted request := by
  obtain ⟨_, parsed, accepted⟩ := bind_eq_ok.mp accepted
  obtain ⟨pin, pinned, accepted⟩ := bind_eq_ok.mp accepted
  obtain ⟨_, _, accepted⟩ := bind_eq_ok.mp accepted
  obtain ⟨_, _, accepted⟩ := bind_eq_ok.mp accepted
  obtain ⟨_, budget, accepted⟩ := bind_eq_ok.mp accepted
  obtain ⟨trusted, accepted⟩ := refuseIf_bind_eq_ok.mp accepted
  refine ⟨(JobRecord.parse_eq_ok.mp parsed).1, ⟨pin, pinned⟩, assertBudgetMatchesPin_parsed budget, not_not.mp trusted, ?_, ?_⟩
  · intro named
    rwa [if_pos named] at accepted
  · intro other
    rwa [if_neg other] at accepted

theorem assertErc8183Transition_actor [Sha256] {request : TransitionRequest}
    (accepted : assertErc8183Transition request = .ok ()) :
    ∃ actor, normalizeAddress request.actorAddress "actor address" = .ok actor := by
  have passed := assertErc8183Transition_passed accepted
  by_cases named : request.action = .reconcile
  · obtain ⟨_, judged⟩ := refuseIf_bind_eq_ok.mp (passed.reconciles named)
    obtain ⟨actor, read, _⟩ := bind_eq_ok.mp judged
    exact ⟨actor, normalizeAddress_label read _⟩
  · obtain ⟨_, judged⟩ := refuseIf_bind_eq_ok.mp (passed.acts named)
    obtain ⟨_, judged⟩ := refuseIf_bind_eq_ok.mp judged
    obtain ⟨_, _, judged⟩ := bind_eq_ok.mp judged
    obtain ⟨_, actor, _⟩ := bind_eq_ok.mp judged
    exact assertActorForAction_address actor named

theorem assertErc8183Transition_submit [Sha256] {request : TransitionRequest}
    (accepted : assertErc8183Transition request = .ok ()) (named : request.action = .submit) :
    request.job.state = .funded ∧ request.nextState = .submitted := by
  have other : request.action ≠ .reconcile := by
    rw [named]
    decide
  obtain ⟨_, judged⟩ := refuseIf_bind_eq_ok.mp ((assertErc8183Transition_passed accepted).acts other)
  obtain ⟨_, judged⟩ := refuseIf_bind_eq_ok.mp judged
  obtain ⟨_, states, _⟩ := bind_eq_ok.mp judged
  simp only [assertStatesForAction, refuseIf_bind_eq_ok, refuseIf_eq_ok] at states
  obtain ⟨_, _, _, submit, _⟩ := states
  exact not_not.mp fun other => submit ⟨named, other⟩

theorem createErc8183JobEvent_exists [Sha256] {input : JobEventInput} {eventId : Uuid} {actorAddress : String}
    {actor : Address} (named : input.actorAddress = some actorAddress)
    (read : normalizeAddress actorAddress "actor address" = .ok actor)
    (safe : assertPublicPayloadSafe "payload" (payloadOrEmpty input.payload) = .ok ())
    (clean : input.issues = []) : ∃ event, createErc8183JobEvent eventId input = .ok event := by
  have parts := clean
  simp only [JobEventInput.issues, List.append_eq_nil_iff, nullableIssues_eq_nil] at parts
  obtain ⟨⟨⟨⟨⟨_, transactionHash⟩, blockNumber⟩, blockHash⟩, _⟩, _⟩ := parts
  obtain ⟨hash, hashed⟩ := checkNullable_exists transactionHash
  obtain ⟨block, numbered⟩ := checkNullable_exists blockNumber
  obtain ⟨observed, blocked⟩ := checkNullable_exists blockHash
  simp only [createErc8183JobEvent, safe, named, normalizeNullableAddress, read, hashed, numbered, blocked, clean]
  exact ⟨_, rfl⟩

theorem parseAtomic_isDecimal {value label : String} {amount : Nat} (parsed : parseAtomic value label = .ok amount) :
    isDecimal value = true := by
  unfold parseAtomic at parsed
  split at parsed
  · assumption
  · cases parsed

theorem nextTerms_exists {input : TransitionJobInput} {pin : EnabledDeploymentPin} (documented : input.Documented)
    (pinned : parseEnabledDeploymentPin input.request.deploymentPin = .ok pin) :
    ∃ terms, nextTerms input.request.job.terms input.request.action input.metadata pin = .ok terms := by
  cases action : input.request.action with
  | setProvider =>
    obtain ⟨text, address, given, read⟩ := documented.providerAddress action
    simp only [nextTerms, given, read]
    exact ⟨_, rfl⟩
  | setBudget =>
    obtain ⟨text, given, admitted⟩ := documented.budgetAtomic action
    have matched := admitted pin pinned
    obtain ⟨budget, parsed⟩ := assertBudgetMatchesPin_parsed matched
    have found : check isDecimal text = some ⟨text, parseAtomic_isDecimal parsed⟩ := dif_pos (parseAtomic_isDecimal parsed)
    simp only [nextTerms, given, parsed, matched, found, bind, Except.bind]
    exact ⟨_, rfl⟩
  | create => exact ⟨_, rfl⟩
  | fund => exact ⟨_, rfl⟩
  | submit => exact ⟨_, rfl⟩
  | complete => exact ⟨_, rfl⟩
  | reject => exact ⟨_, rfl⟩
  | claimRefund => exact ⟨_, rfl⟩
  | reconcile => exact ⟨_, rfl⟩

theorem BuyerApproval.issues_eq_nil {job : JobRecord} {approval : BuyerApproval} : approval.issues job = [] ↔
    (job.state = .submitted ∨ job.state = .completed) ∧
      lower approval.buyerAddress.text = lower job.terms.clientAddress.text ∧
      job.deliverableDigest.map (lower ·.text) = some (lower approval.resultDigest.text) := by
  simp only [BuyerApproval.issues, List.append_eq_nil_iff, issueIf_eq_nil, not_and_or, not_not, and_assoc]

/-- Of a valid job's rules a transition can break one: that an approval needs a submitted or completed job. -/
theorem nextJob_issues [Sha256] {job : JobRecord} {terms : JobTerms} {nextState : JobState} {metadata : ActionMetadata}
    {nowUnix : UnixSeconds} (clean : job.trimmed.issues = []) (agreement : SameAgreement job.terms terms)
    (kept : job.buyerApproval ≠ none → metadata.deliverableDigest = none) :
    (nextJob job terms nextState metadata nowUnix).trimmed.issues = [] ↔
      (job.buyerApproval ≠ none → nextState = .submitted ∨ nextState = .completed) := by
  simp only [JobRecord.issues, List.append_eq_nil_iff] at clean ⊢
  obtain ⟨⟨⟨⟨⟨⟨pin, binding⟩, chain⟩, contract⟩, digest⟩, approved⟩, identity⟩ := clean
  have unchanged : (nextJob job terms nextState metadata nowUnix).trimmed.terms.chainId = job.trimmed.terms.chainId ∧
      (nextJob job terms nextState metadata nowUnix).trimmed.terms.commerceContract = job.trimmed.terms.commerceContract :=
    ⟨agreement.chainId, agreement.commerceContract⟩
  rw [unchanged.1, unchanged.2]
  refine Iff.trans ⟨fun holds => holds.1.2, fun holds => ⟨⟨⟨⟨⟨⟨pin, binding⟩, chain⟩, contract⟩, digest⟩, holds⟩, identity⟩⟩ ?_
  have same : (nextJob job terms nextState metadata nowUnix).trimmed.buyerApproval = job.buyerApproval := rfl
  rw [same]
  cases found : job.buyerApproval with
  | none => simp
  | some approval =>
    have before : approval.issues job.trimmed = [] := by
      have stored : job.trimmed.buyerApproval = some approval := found
      rw [stored] at approved
      exact approved
    obtain ⟨_, buyer, result⟩ := BuyerApproval.issues_eq_nil.mp before
    have digests : textOr metadata.deliverableDigest job.deliverableDigest = job.deliverableDigest := by
      rw [kept (by simp [found])]
      rfl
    have client : (nextJob job terms nextState metadata nowUnix).trimmed.terms.clientAddress = job.trimmed.terms.clientAddress :=
      agreement.clientAddress
    have deliverable : (nextJob job terms nextState metadata nowUnix).trimmed.deliverableDigest = job.trimmed.deliverableDigest :=
      digests
    rw [Option.map_some, Option.getD_some, BuyerApproval.issues_eq_nil, client, deliverable]
    have state : (nextJob job terms nextState metadata nowUnix).trimmed.state = nextState := rfl
    rw [state]
    simp [buyer, result]
theorem JobRecord.approved_state [Sha256] {job : JobRecord} (clean : job.trimmed.issues = [])
    (approved : job.buyerApproval ≠ none) : job.state = .submitted ∨ job.state = .completed := by
  obtain ⟨approval, found⟩ := Option.ne_none_iff_exists'.mp approved
  simp only [JobRecord.issues, List.append_eq_nil_iff] at clean
  have stored : job.trimmed.buyerApproval = some approval := found
  rw [stored] at clean
  exact (BuyerApproval.issues_eq_nil.mp clean.1.2).1

theorem assertErc8183Transition_approved [Sha256] {request : TransitionRequest}
    (accepted : assertErc8183Transition request = .ok ()) (approved : request.job.buyerApproval ≠ none) :
    (request.nextState = .submitted ∨ request.nextState = .completed) ∨
      (request.nextState = .rejected ∨ request.nextState = .expired) := by
  have source := JobRecord.approved_state (assertErc8183Transition_passed accepted).clean approved
  by_cases moves : request.nextState = request.job.state
  · rw [moves]
    exact .inl source
  · obtain ⟨_, action⟩ := assertErc8183Transition_action accepted moves
    have states := canTransition_cases (assertAction_accepted action moves).allowed (Ne.symm moves)
    rcases states with ⟨opened, _⟩ | ⟨funded, _⟩ | ⟨_, completed | ended⟩
    · rw [opened] at source
      simp at source
    · rw [funded] at source
      simp at source
    · exact .inl (.inr completed)
    · exact .inr ended

section
variable {input : TransitionJobInput}

theorem TransitionJobInput.Documented.metadata_issues (documented : input.Documented) : input.metadata.issues = [] := by
  simp only [ActionMetadata.issues, List.append_eq_nil_iff, nullableIssues_eq_nil]
  exact ⟨⟨fun text given => (documented.deliverableDigest text given).1, documented.blockNumber⟩, documented.blockHash⟩

theorem TransitionJobInput.Documented.event_issues (documented : input.Documented) (nowUnix : UnixSeconds) :
    (input.eventInput nowUnix).issues = [] := by
  simp only [JobEventInput.issues, List.append_eq_nil_iff, nullableIssues_eq_nil, issueIf_eq_nil]
  have index : ¬(input.eventInput nowUnix).logIndex.any (· < 0) = true := by
    show ¬input.metadata.logIndex.any (· < 0) = true
    cases given : input.metadata.logIndex with
    | none => simp
    | some index =>
      have natural := documented.logIndex index given
      simp [natural]
  exact ⟨⟨⟨⟨⟨documented.idempotencyKey, documented.transactionHash⟩, documented.blockNumber⟩, documented.blockHash⟩, index⟩,
    documented.correlationId⟩

variable [Sha256]

/-- With documented inputs only the schema of the record is left to refuse an accepted transition. -/
theorem transitionErc8183Job_reaches_record (eventId : Uuid) (accepted : assertErc8183Transition input.request = .ok ())
    (documented : input.Documented) : ∃ pin terms nowUnix event,
      nextTerms input.request.job.terms input.request.action input.metadata pin = .ok terms ∧
      createErc8183JobEvent eventId (input.eventInput nowUnix) = .ok event ∧
      transitionErc8183Job eventId input =
        (let next := (nextJob input.request.job terms input.request.nextState input.metadata nowUnix).trimmed
        if next.issues = [] then .ok (next, event) else .error (.zod next.issues)) := by
  have passed := assertErc8183Transition_passed accepted
  obtain ⟨pin, pinned⟩ := passed.pinned
  obtain ⟨budget, parsed⟩ := passed.budget
  obtain ⟨actor, read⟩ := assertErc8183Transition_actor accepted
  obtain ⟨terms, termed⟩ := nextTerms_exists documented pinned
  let nowUnix : UnixSeconds := ⟨input.request.nowUnix, passed.time.1, passed.time.2⟩
  have timed : within? 1 maxSafeInteger input.request.nowUnix = some nowUnix := dif_pos passed.time
  obtain ⟨event, created⟩ := @createErc8183JobEvent_exists _ (input.eventInput nowUnix) eventId _ actor rfl read
    documented.payload (documented.event_issues nowUnix)
  have digest : ¬(input.metadata.deliverableDigest.isSome ∧ input.request.nextState ≠ .submitted) := by
    rintro ⟨given, other⟩
    obtain ⟨text, given⟩ := Option.isSome_iff_exists.mp given
    exact other (assertErc8183Transition_submit accepted (documented.deliverableDigest text given).2).2
  have hash : ¬(input.metadata.transactionHash.any fun text => !isTransactionHash text) = true := by
    cases given : input.metadata.transactionHash with
    | none => simp
    | some text => simp [documented.transactionHash text given]
  refine ⟨pin, terms, nowUnix, event, termed, created, ?_⟩
  simp only [transitionErc8183Job, accepted, pinned, refuseIf, if_neg digest, if_neg hash, parsed, termed, timed, created,
    documented.metadata_issues, List.nil_append, bind, Except.bind, pure, Except.pure]

/-- An accepted transition with documented inputs completes unless it takes an approved job to an end without payment. -/
theorem transitionErc8183Job_completes_iff {eventId : Uuid} (accepted : assertErc8183Transition input.request = .ok ())
    (documented : input.Documented) :
    Completes eventId input ↔ ¬(input.request.job.buyerApproval ≠ none ∧
      (input.request.nextState = .rejected ∨ input.request.nextState = .expired)) := by
  have clean := (assertErc8183Transition_passed accepted).clean
  obtain ⟨pin, terms, nowUnix, event, termed, created, made⟩ :=
    transitionErc8183Job_reaches_record eventId accepted documented
  have kept : input.request.job.buyerApproval ≠ none → input.metadata.deliverableDigest = none := by
    intro approved
    by_contra given
    obtain ⟨text, given⟩ := Option.ne_none_iff_exists'.mp given
    have source := JobRecord.approved_state clean approved
    rw [(assertErc8183Transition_submit accepted (documented.deliverableDigest text given).2).1] at source
    simp at source
  have issues := @nextJob_issues _ _ terms input.request.nextState _ nowUnix clean (nextTerms_agreement termed).1 kept
  unfold Completes
  rw [made]
  constructor
  · rintro ⟨job, event, next, _⟩ ⟨approved, ended⟩
    dsimp only at next
    split at next
    · rename_i valid
      rcases issues.mp valid approved with state | state
      · rw [state] at ended
        simp at ended
      · rw [state] at ended
        simp at ended
    · cases next
  · intro unended
    have valid := issues.mpr fun approved => (assertErc8183Transition_approved accepted approved).resolve_right
      fun ended => unended ⟨approved, ended⟩
    refine ⟨_, event, if_pos valid, rfl, ?_, (createErc8183JobEvent_created created).previousState⟩
    exact JobRecord.parse_eq_ok.mpr ⟨(JobRecord.trimmed_trimmed _).symm ▸ valid, (JobRecord.trimmed_trimmed _).symm⟩

end

def approvedJob : JobRecord :=
  { sampleJob .submitted with
    deliverableDigest := some samplePinDigest
    buyerApproval := some ⟨clientAddress, samplePinDigest, ⟨150, by decide, by decide⟩⟩ }

def approvedInput (action : JobAction) (nextState : JobState) (actor : NonZeroAddress) (nowUnix : Int) : TransitionJobInput where
  request := {
    job := approvedJob
    deploymentPin := .enabled samplePin
    nextState := nextState
    action := action
    actorAddress := actor.text
    nowUnix := nowUnix
    reconcilerAddresses := [] }
  idempotencyKey := "settle-job-7"
  metadata := {}
  correlationId := "correlation"

theorem approvedInput_documented {action : JobAction} {nextState : JobState} {actor : NonZeroAddress} {nowUnix : Int}
    (fixed : action ≠ .setProvider ∧ action ≠ .setBudget) : (approvedInput action nextState actor nowUnix).Documented where
  deliverableDigest := nofun
  transactionHash := nofun
  blockNumber := nofun
  blockHash := nofun
  logIndex := nofun
  payload := by
    show assertPublicPayloadSafe "payload" (.obj []) = .ok ()
    decide +kernel
  providerAddress := fun named => absurd named fixed.1
  budgetAtomic := fun named => absurd named fixed.2
  idempotencyKey := by
    show lengthIssues ["eventKey"] 1 240 (trim "action:settle-job-7") = []
    decide +kernel
  correlationId := by
    show lengthIssues ["correlationId"] 1 160 (trim "correlation") = []
    decide +kernel

section
attribute [local instance] nullSha256

/-- The evaluator completes the approved job. -/
theorem transitionErc8183Job_completes_approved :
    Completes sampleId (approvedInput .complete .completed evaluatorAddress 200) := by
  have accepted : assertErc8183Transition (approvedInput .complete .completed evaluatorAddress 200).request = .ok () := by
    decide +kernel
  exact (transitionErc8183Job_completes_iff accepted (approvedInput_documented (by decide))).mpr (by decide)

/-- The refund of an approved job that expired is authorised, and the schema of the record throws. -/
theorem claimRefund_of_approved_throws :
    ∃ input : TransitionJobInput, assertErc8183Transition input.request = .ok () ∧ input.Documented ∧
      transitionErc8183Job sampleId input = .error (.zod
        [⟨["buyerApproval"], "Buyer approval is only valid for a submitted or completed job."⟩]) ∧
      ¬Completes sampleId input := by
  have thrown : (transitionErc8183Job sampleId (approvedInput .claimRefund .expired clientAddress 1000)).map (fun _ => ()) =
      .error (.zod [⟨["buyerApproval"], "Buyer approval is only valid for a submitted or completed job."⟩]) := by
    decide +kernel
  have throws : transitionErc8183Job sampleId (approvedInput .claimRefund .expired clientAddress 1000) = .error (.zod
      [⟨["buyerApproval"], "Buyer approval is only valid for a submitted or completed job."⟩]) := by
    cases result : transitionErc8183Job sampleId (approvedInput .claimRefund .expired clientAddress 1000) with
    | error failure =>
      rw [result] at thrown
      cases thrown
      rfl
    | ok next =>
      rw [result] at thrown
      cases thrown
  have accepted : assertErc8183Transition (approvedInput .claimRefund .expired clientAddress 1000).request = .ok () := by
    decide +kernel
  refine ⟨_, accepted, approvedInput_documented (by decide), throws, ?_⟩
  rintro ⟨job, event, next, _⟩
  rw [throws] at next
  cases next

end

end Bnbera
