import Bnbera.Payments.Creation

namespace Bnbera.Payments

section
variable [UrlParser] [Sha256]

/-- Accepted transitions of one attempt, each permitted; `earlier` lists the attempt before each of them. -/
inductive AttemptRun (permits : List PaymentAttempt → PaymentTransition → Prop) :
    List PaymentAttempt → PaymentAttempt → Prop
  | start {first : PaymentAttempt} : first.parse = .ok first → AttemptRun permits [] first
  | next {earlier : List PaymentAttempt} {input : PaymentTransition} {after : PaymentAttempt} {eventId event} :
      AttemptRun permits earlier input.attempt → permits earlier input →
      transitionPaymentAttempt eventId input = .ok (after, event) →
      AttemptRun permits (earlier ++ [input.attempt]) after

/-- An authorization that is given after the first one is the recorded one, and so is a relay
request that is given after the attempt was relayed. -/
structure RepeatsEvidence (earlier : List PaymentAttempt) (input : PaymentTransition) : Prop where
  authorization : ∀ given ∈ input.metadata.authorization, input.attempt.status ≠ .challenged →
    input.attempt.authorizationDigest = some (.ofDigest (paymentAuthorizationDigest given.authorization)) ∧
      input.attempt.payerAddress = some given.authorization.payerAddress.lowered
  relay : ∀ given ∈ input.metadata.relayRequest, (∃ old ∈ earlier ++ [input.attempt], old.status = .relayed) →
    input.attempt.relayRequestDigest = some given.relay.requestDigest

structure KeepsEvidence (old attempt : PaymentAttempt) : Prop where
  pin : attempt.pin = old.pin
  pinDigest : attempt.pinDigest = old.pinDigest
  challenge : attempt.challenge = old.challenge
  requestId : attempt.requestId = old.requestId
  authorization : old.status ≠ .challenged →
    attempt.authorizationDigest = old.authorizationDigest ∧ attempt.payerAddress = old.payerAddress
  relay : old.status = .relayed → attempt.relayRequestDigest = old.relayRequestDigest

def RelayBound (attempt : PaymentAttempt) : Prop :=
  ∃ given : ValidatedRelayRequest, attempt.relayRequestDigest = some given.relay.requestDigest ∧
    attempt.authorizationDigest = some given.relay.authorizationDigest

variable {permits : List PaymentAttempt → PaymentTransition → Prop} {earlier : List PaymentAttempt}
  {input : PaymentTransition} {attempt : PaymentAttempt} {eventId : Uuid} {event : PaymentEvent}

omit [UrlParser] [Sha256] in
theorem canTransitionPayment_challenged {status : PaymentAttemptStatus}
    (moves : canTransitionPayment status .challenged = true) : status = .challenged := by
  cases status <;> first
    | rfl
    | cases moves

theorem transitionPaymentAttempt_made (accepted : transitionPaymentAttempt eventId input = .ok (attempt, event)) :
    ∃ nowUnix, attempt = (nextAttempt input.attempt input.nextStatus input.metadata nowUnix).trimmed := by
  obtain ⟨_, nowUnix, _, _, read⟩ := transitionPaymentAttempt_eq_ok.mp accepted
  exact ⟨nowUnix, PaymentAttempt.parse_eq_ok read⟩

theorem transitionPaymentAttempt_unchallenged
    (accepted : transitionPaymentAttempt eventId input = .ok (attempt, event)) : attempt.status ≠ .challenged := by
  obtain ⟨allowed, _⟩ := transitionPaymentAttempt_eq_ok.mp accepted
  obtain ⟨_, rfl⟩ := transitionPaymentAttempt_made accepted
  intro challenged
  have reached : input.nextStatus = .challenged := challenged
  have moves := allowed.moves
  rw [reached] at moves
  exact allowed.apart ((canTransitionPayment_challenged moves).trans reached.symm)

theorem AttemptRun.parsed (run : AttemptRun permits earlier attempt) : attempt.parse = .ok attempt := by
  cases run with
  | start read => exact read
  | next _ _ accepted =>
    obtain ⟨_, _, _, _, read⟩ := transitionPaymentAttempt_eq_ok.mp accepted
    exact PaymentAttempt.parse_parse read

/-- One transition that repeats the evidence keeps it. -/
theorem RepeatsEvidence.keeps (repeats : RepeatsEvidence earlier input) (read : input.attempt.parse = .ok input.attempt)
    (accepted : transitionPaymentAttempt eventId input = .ok (attempt, event)) :
    KeepsEvidence input.attempt attempt ∧
      ((∃ old ∈ earlier ++ [input.attempt], old.status = .relayed) →
        attempt.relayRequestDigest = input.attempt.relayRequestDigest) := by
  obtain ⟨_, rfl⟩ := transitionPaymentAttempt_made accepted
  have same := PaymentAttempt.trimmed_of_parse read
  have relayed : ∀ {nowUnix}, (∃ old ∈ earlier ++ [input.attempt], old.status = .relayed) →
      (nextAttempt input.attempt input.nextStatus input.metadata nowUnix).trimmed.relayRequestDigest =
        input.attempt.relayRequestDigest := by
    intro nowUnix reached
    cases presented : input.metadata.relayRequest with
    | none => simp only [nextAttempt, PaymentAttempt.trimmed, presented]
    | some given =>
      simp only [nextAttempt, PaymentAttempt.trimmed, presented]
      exact (repeats.relay given presented reached).symm
  have pin : input.attempt.trimmed.pin = input.attempt.pin := by rw [same]
  have challenge : input.attempt.trimmed.challenge = input.attempt.challenge := by rw [same]
  have requestId : input.attempt.trimmed.requestId = input.attempt.requestId := by rw [same]
  refine ⟨⟨pin, rfl, challenge, requestId, fun authorized => ?_, fun reached => ?_⟩, relayed⟩
  · cases presented : input.metadata.authorization with
    | none => simp only [nextAttempt, PaymentAttempt.trimmed, presented, and_self]
    | some given =>
      have recorded := repeats.authorization given presented authorized
      simp only [nextAttempt, PaymentAttempt.trimmed, presented]
      exact ⟨recorded.1.symm, recorded.2.symm⟩
  · exact relayed ⟨_, List.mem_append_right _ List.mem_cons_self, reached⟩

theorem RepeatsEvidence.bound (repeats : RepeatsEvidence earlier input)
    (accepted : transitionPaymentAttempt eventId input = .ok (attempt, event)) (relayed : attempt.status = .relayed) :
    RelayBound attempt := by
  obtain ⟨allowed, _⟩ := transitionPaymentAttempt_eq_ok.mp accepted
  obtain ⟨_, rfl⟩ := transitionPaymentAttempt_made accepted
  have reached : input.nextStatus = .relayed := relayed
  have conditions := allowed.conditions
  simp only [assertStatusConditions, bind_eq_ok, refuseIf_eq_ok, exists_const, reached] at conditions
  have moves := allowed.moves
  rw [reached] at moves
  have pending : input.attempt.status ≠ .challenged := by
    intro challenged
    rw [challenged] at moves
    cases moves
  cases presented : input.metadata.relayRequest with
  | none => simp [presented] at conditions
  | some given =>
    have bound := allowed.relay given presented
    simp only [assertRelayBound, bind_eq_ok, refuseIf_eq_ok, exists_const, not_not] at bound
    refine ⟨given, by simp only [nextAttempt, PaymentAttempt.trimmed, presented], ?_⟩
    simp only [nextAttempt, PaymentAttempt.trimmed]
    cases authorized : input.metadata.authorization with
    | none => exact bound.2.1
    | some other => exact (repeats.authorization other authorized pending).1.symm.trans bound.2.1

theorem AttemptRun.unchallenged (run : AttemptRun permits earlier attempt) (moved : earlier ≠ []) :
    attempt.status ≠ .challenged := by
  cases run with
  | start => exact absurd rfl moved
  | next _ _ accepted => exact transitionPaymentAttempt_unchallenged accepted

/-- In a run whose transitions repeat the recorded evidence it is frozen: pin, challenge and
request never change, nor does the authorization once the attempt is authorized, nor the relay
digest once it is relayed; and that is the digest of a request for that authorization. -/
theorem AttemptRun.frozen (run : AttemptRun RepeatsEvidence earlier attempt) :
    (∀ old ∈ earlier, KeepsEvidence old attempt) ∧
      ((∃ old ∈ (earlier ++ [attempt]).tail, old.status = .relayed) → RelayBound attempt) := by
  induction run with
  | start => exact ⟨fun old member => (nomatch member), fun ⟨old, member, _⟩ => (nomatch member)⟩
  | @next earlier input after _ _ run permitted accepted ih =>
    obtain ⟨step, relayed⟩ := permitted.keeps run.parsed accepted
    constructor
    · intro old member
      rcases List.mem_append.mp member with before | last
      · have kept := ih.1 old before
        have unchallenged := run.unchallenged (List.ne_nil_of_mem before)
        refine ⟨step.pin.trans kept.pin, step.pinDigest.trans kept.pinDigest, step.challenge.trans kept.challenge,
          step.requestId.trans kept.requestId, fun reached => ?_, fun reached => ?_⟩
        · have first := kept.authorization reached
          have second := step.authorization unchallenged
          exact ⟨second.1.trans first.1, second.2.trans first.2⟩
        · exact (relayed ⟨old, List.mem_append_left _ before, reached⟩).trans (kept.relay reached)
      · cases List.mem_singleton.mp last
        exact step
    · rintro ⟨old, member, reached⟩
      have nonempty : earlier ++ [input.attempt] ≠ [] := List.append_ne_nil_of_right_ne_nil _ (List.cons_ne_nil _ _)
      rw [List.tail_append_of_ne_nil nonempty] at member
      rcases List.mem_append.mp member with before | last
      · obtain ⟨given, requestDigest, authorizationDigest⟩ := ih.2 ⟨old, before, reached⟩
        have moved : earlier ≠ [] := by
          rintro rfl
          cases before
        refine ⟨given, ?_, ?_⟩
        · rw [relayed ⟨old, List.mem_of_mem_tail before, reached⟩, requestDigest]
        · rw [(step.authorization (run.unchallenged moved)).1, authorizationDigest]
      · cases List.mem_singleton.mp last
        exact permitted.bound accepted reached

end

section
attribute [local instance] plainUrls nullSha256

def sampleId : Uuid := ⟨_, firstUuid_ok⟩

def payer : NonZeroAddress := ⟨"0x3333333333333333333333333333333333333333", by decide +kernel⟩

def otherPayer : NonZeroAddress := ⟨"0x4444444444444444444444444444444444444444", by decide +kernel⟩

theorem sampleAuthorization_valid (payerAddress : NonZeroAddress) (known : payerAddress = payer ∨ payerAddress = otherPayer) :
    validateAuthorization (sampleAuthorization sampleId payerAddress) (sampleChallenge "challenge-1") samplePin 120 =
      .ok (sampleAuthorization sampleId payerAddress) := by
  rw [← toOption_eq_some]
  rcases known with rfl | rfl <;> decide +kernel

def authorizedBy (payerAddress : NonZeroAddress) (known : payerAddress = payer ∨ payerAddress = otherPayer) :
    ValidatedPaymentAuthorization :=
  ⟨sampleAuthorization sampleId payerAddress, _, _, _, _, sampleAuthorization_valid payerAddress known⟩

def sampleTransition (attempt : PaymentAttempt) (nextStatus : PaymentAttemptStatus)
    (metadata : PaymentTransitionMetadata) : PaymentTransition where
  attempt := attempt
  sellerConfiguration := some sampleConfiguration
  nextStatus := nextStatus
  nowUnix := 120
  idempotencyKey := "transition-1"
  correlationId := "trace-1"
  metadata := metadata
  reconcilerAddresses := []

/-- A transition of the sample attempt that its conditions allow goes through. -/
theorem sampleTransition_accepted {attempt : PaymentAttempt} {nextStatus : PaymentAttemptStatus}
    {metadata : PaymentTransitionMetadata} (read : attempt.parse = .ok attempt) (pinned : attempt.pin = samplePin)
    (allowed : canTransitionPayment attempt.status nextStatus = true ∧ attempt.status ≠ nextStatus ∧
      attempt.status ≠ .unknown ∧ attempt.status ≠ .partialFailure ∧ nextStatus ≠ .settled ∧ nextStatus ≠ .delivered)
    (authorization : ∀ given ∈ metadata.authorization, assertAuthorizationBound attempt given.authorization = .ok ())
    (plain : metadata.relayRequest = none ∧ metadata.receipt = none ∧ metadata.failureCode = none ∧
      metadata.sanitizedFailure = none ∧ metadata.paymentTransactionHash = none ∧
      metadata.settlementTransactionHash = none ∧ metadata.payload = none)
    (conditions : assertStatusConditions attempt nextStatus 120 metadata = .ok ()) :
    ∃ event, transitionPaymentAttempt sampleId (sampleTransition attempt nextStatus metadata) =
      .ok (nextAttempt attempt nextStatus metadata ⟨120, by decide, by decide⟩, event) := by
  obtain ⟨moves, apart, known, whole, unsettled, undelivered⟩ := allowed
  obtain ⟨noRelay, noReceipt, noCode, noText, noPayment, noSettlement, noPayload⟩ := plain
  have noted : PlainIdentifier ("action:" ++ "transition-1") :=
    (PlainKey.ofList (by decide) (by decide) (by decide) : PlainKey "transition-1").noted
  have traced : PlainIdentifier "trace-1" := .ofList (by decide)
  have keys : identifierIssues ["eventKey"] (trim ("action:" ++ "transition-1")) ++
      identifierIssues ["correlationId"] (trim "trace-1") = [] := by
    rw [noted.trimmed, traced.trimmed, noted.issues, traced.issues]
    rfl
  have noted : ∃ event, createPaymentEvent sampleId
      ((sampleTransition attempt nextStatus metadata).eventInput ⟨120, by decide, by decide⟩) = .ok event := by
    have payload : eventPayload metadata = [] := by simp only [eventPayload, noReceipt, noPayload]; rfl
    have issues : ((sampleTransition attempt nextStatus metadata).eventInput ⟨120, by decide, by decide⟩).issues = [] := by
      simp only [PaymentEventInput.issues, PaymentTransition.eventInput, sampleTransition, hashOr, noPayment, noSettlement,
        noReceipt, Option.join_none, Option.bind_none, Option.map_none, Option.or_none, nullableIssues, List.append_nil]
      exact keys
    simp only [createPaymentEvent, issues]
    simp only [PaymentTransition.eventInput, sampleTransition, hashOr, noPayment, noSettlement, noReceipt, payload]
    exact ⟨_, rfl⟩
  obtain ⟨event, noted⟩ := noted
  have time : IsTrustedTime 120 := by decide
  refine ⟨event, transitionPaymentAttempt_eq_ok.mpr ⟨⟨⟨_, read⟩, time, ?_, authorization, ?_, moves, apart, ?_, ?_, ?_,
    conditions⟩, _, rfl, noted, nextAttempt_parse _ read noCode noText⟩⟩
  · have pin : (sampleTransition attempt nextStatus metadata).attempt.pin = samplePin := pinned
    rw [pin]
    exact ⟨_, pinned_sample⟩
  · intro given member
    have absent : given ∈ metadata.relayRequest := member
    rw [noRelay] at absent
    cases absent
  · rintro ⟨ambiguous, _⟩
    exact absurd ambiguous (by simp [sampleTransition, known, whole])
  · rintro (settled | delivered)
    · exact absurd settled unsettled
    · exact absurd delivered undelivered
  · intro receipt member
    have absent : receipt ∈ metadata.receipt := member
    rw [noReceipt] at absent
    cases absent

theorem sampleAttempt_reads : (newAttempt sampleId "payment-1" "challenge-1").parse =
    .ok (newAttempt sampleId "payment-1" "challenge-1") :=
  sampleAttempt_parse firstKey firstChallenge

def authorizedAttempt : PaymentAttempt :=
  nextAttempt (sampleAttempt sampleId "payment-1" "challenge-1" .challenged) .authorized
    { authorization := some (authorizedBy payer (.inl rfl)) } ⟨120, by decide, by decide⟩

theorem authorizedAttempt_reached {permits : List PaymentAttempt → PaymentTransition → Prop}
    (permitted : permits [] (sampleTransition (sampleAttempt sampleId "payment-1" "challenge-1" .challenged) .authorized
      { authorization := some (authorizedBy payer (.inl rfl)) })) :
    AttemptRun permits [sampleAttempt sampleId "payment-1" "challenge-1" .challenged] authorizedAttempt := by
  obtain ⟨event, accepted⟩ := @sampleTransition_accepted (sampleAttempt sampleId "payment-1" "challenge-1" .challenged) .authorized
    { authorization := some (authorizedBy payer (.inl rfl)) } sampleAttempt_reads rfl (by decide) (by
      intro given member
      cases Option.some.inj (Option.mem_def.mp member)
      exact refuseIf_eq_ok.mpr (by decide +kernel)) ⟨rfl, rfl, rfl, rfl, rfl, rfl, rfl⟩ (by
      simp only [assertStatusConditions, bind_eq_ok, refuseIf_eq_ok, exists_const]
      decide +kernel)
  exact AttemptRun.next (.start sampleAttempt_reads) permitted accepted

theorem authorizedAttempt_relays {metadata : PaymentTransitionMetadata}
    (given : metadata = {} ∨ metadata = { authorization := some (authorizedBy otherPayer (.inr rfl)) }) :
    ∃ event, transitionPaymentAttempt sampleId (sampleTransition authorizedAttempt .relayPending metadata) =
      .ok (nextAttempt authorizedAttempt .relayPending metadata ⟨120, by decide, by decide⟩, event) := by
  have read : authorizedAttempt.parse = .ok authorizedAttempt := nextAttempt_parse _ sampleAttempt_reads rfl rfl
  have conditions : assertStatusConditions authorizedAttempt .relayPending 120 {} = .ok () := by decide +kernel
  rcases given with rfl | rfl
  · exact sampleTransition_accepted read rfl (by decide) (fun given member => (nomatch member))
      ⟨rfl, rfl, rfl, rfl, rfl, rfl, rfl⟩ conditions
  · refine sampleTransition_accepted read rfl (by decide) (fun given member => ?_)
      ⟨rfl, rfl, rfl, rfl, rfl, rfl, rfl⟩ conditions
    cases Option.some.inj (Option.mem_def.mp member)
    exact refuseIf_eq_ok.mpr (by decide +kernel)

/-- Relay of the authorized attempt begins and keeps its evidence. -/
theorem AttemptRun.frozen_relayPending :
    ∃ attempt, attempt.status = .relayPending ∧ KeepsEvidence authorizedAttempt attempt := by
  have first : RepeatsEvidence [] (sampleTransition (sampleAttempt sampleId "payment-1" "challenge-1" .challenged) .authorized
      { authorization := some (authorizedBy payer (.inl rfl)) }) :=
    ⟨fun _ _ challenged => absurd rfl challenged, fun given member => (nomatch member)⟩
  obtain ⟨event, accepted⟩ := authorizedAttempt_relays (.inl rfl)
  have second : RepeatsEvidence [sampleAttempt sampleId "payment-1" "challenge-1" .challenged]
      (sampleTransition authorizedAttempt .relayPending {}) :=
    ⟨fun given member => (nomatch member), fun given member => (nomatch member)⟩
  have run := AttemptRun.next (authorizedAttempt_reached first) second accepted
  exact ⟨_, rfl, (AttemptRun.frozen run).1 _ (List.mem_append_right _ List.mem_cons_self)⟩

/-- The transition to relay names another payer, and the authorized attempt takes it. -/
theorem AttemptRun.payer_replaced : ∃ attempt, AttemptRun (fun _ _ => True)
      [sampleAttempt sampleId "payment-1" "challenge-1" .challenged, authorizedAttempt] attempt ∧
    authorizedAttempt.status = .authorized ∧ attempt.payerAddress ≠ authorizedAttempt.payerAddress := by
  obtain ⟨event, accepted⟩ := authorizedAttempt_relays (.inr rfl)
  refine ⟨_, AttemptRun.next (authorizedAttempt_reached trivial) trivial accepted, rfl, ?_⟩
  have apart : otherPayer.lowered ≠ payer.lowered := by decide +kernel
  exact fun same => apart (Option.some.inj same)

end

end Bnbera.Payments
