import Bnbera.Payments.Commits

namespace Bnbera.Payments

open Interleaving

section
variable [UrlParser] [Sha256] {repository : PaymentRepository} {nowUnix : Int} {eventId : Uuid}
  {memory : PaymentMemory} {input : PaymentAttempt} {commit : PaymentCommit} {answer : PaymentAnswer}

def creationCommit (key requestDigest : String) (attempt : PaymentAttempt) (event : PaymentEvent) : PaymentCommit :=
  ⟨key, requestDigest, none, attempt, event, some attempt.challenge, none, some requestDigest⟩

/-- What `create` establishes before it commits an attempt. -/
structure CreationAccepted (repository : PaymentRepository) (nowUnix : Int) (eventId : Uuid) (memory : PaymentMemory)
    (normalizedInput : PaymentAttempt) (trustedPin : PaymentPin) (key : String) (attempt : PaymentAttempt)
    (event : PaymentEvent) : Prop where
  read : parseIdempotencyKey normalizedInput.idempotencyKey = .ok key
  unused : memory.actions.get key = none
  created : ∃ createdAtUnix challenge, trustedNowUnix nowUnix = .ok createdAtUnix ∧
    validateChallenge normalizedInput.challenge trustedPin createdAtUnix.value = .ok challenge ∧
    PaymentAttempt.parse { normalizedInput with
      challenge := challenge, createdAtUnix := createdAtUnix, updatedAtUnix := createdAtUnix } = .ok attempt
  digest : assertChallengeDigest attempt.challenge = .ok ()
  fresh : memory.assertNewAttempt attempt = .ok ()
  noted : (challengeIssuedEvent eventId key attempt).parse = .ok event

theorem create_commits_iff : repository.create nowUnix eventId memory input = .ok (.commits commit answer) ↔
    ∃ normalizedInput trustedPin key attempt event, repository.normalizeAttempt input = .ok (normalizedInput, trustedPin) ∧
      CreationAccepted repository nowUnix eventId memory normalizedInput trustedPin key attempt event ∧
      commit = creationCommit key (creationRequestDigest normalizedInput).text attempt event ∧
      answer = .created attempt false := by
  constructor
  · intro prepared
    obtain ⟨⟨normalizedInput, trustedPin⟩, normalized, rest⟩ := bind_eq_ok.mp prepared
    obtain ⟨key, read, rest⟩ := bind_eq_ok.mp rest
    dsimp only at rest
    split at rest
    · obtain ⟨_, rest⟩ := refuseIf_bind_eq_ok.mp rest
      cases rest
    · rename_i unused
      obtain ⟨createdAtUnix, clock, rest⟩ := bind_eq_ok.mp rest
      obtain ⟨challenge, valid, rest⟩ := bind_eq_ok.mp rest
      obtain ⟨attempt, parsed, rest⟩ := bind_eq_ok.mp rest
      obtain ⟨_, digest, rest⟩ := bind_eq_ok.mp rest
      obtain ⟨_, fresh, rest⟩ := bind_eq_ok.mp rest
      obtain ⟨event, noted, rest⟩ := bind_eq_ok.mp rest
      have accepted : CreationAccepted repository nowUnix eventId memory normalizedInput trustedPin key attempt event :=
        ⟨read, unused, ⟨createdAtUnix, challenge, clock, valid, parsed⟩, digest, fresh, noted⟩
      cases Except.ok.inj rest
      exact ⟨normalizedInput, trustedPin, key, attempt, event, normalized, accepted, rfl, rfl⟩
  · rintro ⟨normalizedInput, trustedPin, key, attempt, event, normalized, accepted, rfl, rfl⟩
    obtain ⟨createdAtUnix, challenge, clock, valid, parsed⟩ := accepted.created
    unfold PaymentRepository.create
    refine bind_eq_ok.mpr ⟨_, normalized, bind_eq_ok.mpr ⟨_, accepted.read, ?_⟩⟩
    dsimp only
    rw [accepted.unused]
    refine bind_eq_ok.mpr ⟨_, clock, bind_eq_ok.mpr ⟨_, valid, bind_eq_ok.mpr ⟨_, parsed, bind_eq_ok.mpr
      ⟨_, accepted.digest, bind_eq_ok.mpr ⟨_, accepted.fresh, bind_eq_ok.mpr ⟨_, accepted.noted, rfl⟩⟩⟩⟩⟩⟩

end

section
variable [UrlParser] [Sha256]

def sampleRoute : String := "https://seller.example/pay"

def sampleConfiguration : SellerConfiguration where
  enabled := true
  merchantEnvironment := "production"
  merchantAccountReference := "merchant-1"
  merchantCredentialReference := some "vault://merchant"
  facilitatorEndpoint := "https://facilitator.example/"
  settlementNetwork := .testnet
  settlementAsset := ⟨"0x1111111111111111111111111111111111111111", by decide +kernel⟩
  settlementDecimals := ⟨18, eighteen_low, eighteen_high⟩
  payoutAddress := ⟨"0x2222222222222222222222222222222222222222", by decide +kernel⟩
  payoutVerificationState := .verified
  fixedEgressProfile := "egress-1"
  publicX402Url := sampleRoute
  agentCoreRelayAuthenticationReference := some "vault://relay"
  priceUsd := ⟨"1.50", by decide +kernel⟩
  configurationVersion := ⟨1, one_low, by decide +kernel⟩
  canaryStatus := .passed

def samplePin : PaymentPin where
  requestId := "request-1"
  configurationVersion := sampleConfiguration.configurationVersion
  configurationDigest := .ofDigest (b402SellerConfigurationDigest sampleConfiguration)
  rail := .x402B402
  settlementNetwork := .testnet
  settlementAsset := sampleConfiguration.settlementAsset
  settlementDecimals := sampleConfiguration.settlementDecimals
  amountAtomic := ⟨"1500", by decide +kernel⟩
  recipient := sampleConfiguration.payoutAddress
  method := .eip3009
  destination := sampleRoute
  facilitatorEndpoint := sampleConfiguration.facilitatorEndpoint
  fixedEgressProfile := "egress-1"
  payoutAddress := sampleConfiguration.payoutAddress
  maxChallengeLifetimeSeconds := ⟨600, by decide, by decide⟩

/-- The terms of a challenge issued at 100 that expires at 200. -/
def sampleTerms (challengeId : String) : PaymentChallenge where
  challengeId := challengeId
  rail := .x402B402
  version := "v1"
  settlementNetwork := .testnet
  settlementAsset := samplePin.settlementAsset
  settlementDecimals := samplePin.settlementDecimals
  amountAtomic := samplePin.amountAtomic
  recipient := samplePin.recipient
  method := .eip3009
  destination := sampleRoute
  facilitatorEndpoint := samplePin.facilitatorEndpoint
  nonce := "nonce-0001"
  issuedAtUnix := ⟨100, hundred_low, hundred_high⟩
  expiresAtUnix := ⟨200, by decide, by decide⟩
  challengeDigest := samplePin.configurationDigest

def sampleChallenge (challengeId : String) : PaymentChallenge :=
  { sampleTerms challengeId with challengeDigest := .ofDigest (challengeUnsignedDigest (sampleTerms challengeId)) }

def sampleAttempt (attemptId : Uuid) (idempotencyKey challengeId : String) (status : PaymentAttemptStatus) :
    PaymentAttempt where
  attemptId := attemptId
  rail := .x402B402
  requestId := "request-1"
  idempotencyKey := idempotencyKey
  challenge := sampleChallenge challengeId
  challengeDigest := (sampleChallenge challengeId).challengeDigest
  authorizationDigest := none
  payerAddress := none
  pin := samplePin
  pinDigest := .ofDigest (paymentPinDigest samplePin)
  status := status
  relayRequestDigest := none
  failureCode := none
  sanitizedFailure := none
  createdAtUnix := ⟨100, hundred_low, hundred_high⟩
  updatedAtUnix := ⟨100, hundred_low, hundred_high⟩

def sampleAuthorization (attemptId : Uuid) (payerAddress : NonZeroAddress) : PaymentAuthorization where
  attemptId := attemptId
  challengeId := "challenge-1"
  challengeDigest := (sampleChallenge "challenge-1").challengeDigest
  payerAddress := payerAddress
  credentialDigest := samplePin.configurationDigest
  authorizedAtUnix := ⟨110, by decide, by decide⟩

end

/-- A parser that is right on the texts of `https` URLs in normal form. -/
@[reducible] def plainUrls : UrlParser where
  parse text := if "https://".toList.isPrefixOf text.toList then some ⟨"https:", "", "", text⟩ else none

theorem plainUrls_parse {chars : List Char} (https : ['h', 't', 't', 'p', 's', ':', '/', '/'].isPrefixOf chars = true) :
    plainUrls.parse (String.ofList chars) = some ⟨"https:", "", "", String.ofList chars⟩ := by
  have scheme : "https://".toList = ['h', 't', 't', 'p', 's', ':', '/', '/'] := String.toList_ofList
  exact if_pos (by rw [scheme, String.toList_ofList, https])

section
attribute [local instance] plainUrls
variable [Sha256]

omit [Sha256] in
/-- What is needed of a text that is an `https` URL in normal form. -/
theorem plainUrl_read {text : String} (read : UrlParser.parse text = some ⟨"https:", "", "", text⟩) :
    (UrlParser.parse text).isSome ∧ normalizeHttpUrl text = text ∧ isHttpUrl text = true ∧ sameUrl text text = .ok true := by
  have http : isHttpUrl text = true := by
    rw [isHttpUrl, read]
    rfl
  have normal : normalizeHttpUrl text = text := by
    rw [normalizeHttpUrl, read]
    rfl
  have normalized : normalizeUrl text "URL" = .ok text := normalizeUrl_eq_ok.mpr ⟨http, normal.symm⟩
  exact ⟨by rw [read]; rfl, normal, http, by rw [sameUrl, normalized]; exact congrArg Except.ok (decide_eq_true rfl)⟩

omit [Sha256] in
theorem sampleRoute_read : UrlParser.parse sampleRoute = some ⟨"https:", "", "", sampleRoute⟩ ∧
    UrlParser.parse "https://facilitator.example/" = some ⟨"https:", "", "", "https://facilitator.example/"⟩ :=
  ⟨plainUrls_parse (by decide), plainUrls_parse (by decide)⟩

omit [Sha256] in
theorem parse_route : (UrlParser.parse sampleRoute).isSome ∧ (UrlParser.parse "https://facilitator.example/").isSome ∧
    normalizeHttpUrl sampleRoute = sampleRoute ∧
    normalizeHttpUrl "https://facilitator.example/" = "https://facilitator.example/" ∧
    isHttpUrl sampleRoute = true ∧ isHttpUrl "https://facilitator.example/" = true ∧
    sameUrl sampleRoute sampleRoute = .ok true ∧
    sameUrl "https://facilitator.example/" "https://facilitator.example/" = .ok true := by
  obtain ⟨route, routeNormal, routeHttp, routeSame⟩ := plainUrl_read sampleRoute_read.1
  obtain ⟨facilitator, normal, http, same⟩ := plainUrl_read sampleRoute_read.2
  exact ⟨route, facilitator, routeNormal, normal, routeHttp, http, routeSame, same⟩

omit [Sha256] in
theorem sampleRequest : PlainIdentifier "request-1" := .ofList (by decide)

omit [Sha256] in
theorem sampleEgress : PlainIdentifier "egress-1" := .ofList (by decide)

omit [Sha256] in
theorem sampleConfiguration_lowered : sampleConfiguration.settlementAsset.lowered = sampleConfiguration.settlementAsset ∧
    sampleConfiguration.payoutAddress.lowered = sampleConfiguration.payoutAddress :=
  ⟨Checked.ext (lower_ofList (by decide)), Checked.ext (lower_ofList (by decide))⟩

omit [Sha256] in
theorem parseAtomic_sample (label : String) : parseAtomic "1500" label = .ok 1500 := by
  have decimal : isDecimal "1500" = true := isDecimal_ofList (by decide) (by decide)
  have value : decimalValue "1500" = 1500 := decimalValue_ofList
  rw [parseAtomic, if_pos decimal, value, if_pos (by decide)]

theorem samplePin_trimmed : samplePin.trimmed = samplePin := by
  simp only [PaymentPin.trimmed, samplePin, sampleRequest.trimmed, sampleEgress.trimmed]

theorem samplePin_normalized : samplePin.normalized = samplePin := by
  have asset := sampleConfiguration_lowered.1
  have payout := sampleConfiguration_lowered.2
  have route := parse_route.2.2.1
  have facilitator : normalizeHttpUrl sampleConfiguration.facilitatorEndpoint = sampleConfiguration.facilitatorEndpoint :=
    parse_route.2.2.2.1
  simp only [PaymentPin.normalized, samplePin, asset, payout, route, facilitator]

theorem samplePin_issues (path : List String) : samplePin.issues path = [] := by
  have route : urlIssues (path ++ ["destination"]) sampleRoute = [] := if_pos parse_route.2.2.2.2.1
  have facilitator : urlIssues (path ++ ["facilitatorEndpoint"]) samplePin.facilitatorEndpoint = [] :=
    if_pos parse_route.2.2.2.2.2.1
  have requested := sampleRequest.issues (path ++ ["requestId"])
  have routed : urlIssues (path ++ ["destination"]) samplePin.destination = [] := route
  simp only [PaymentPin.issues, facilitator, routed, List.append_nil]
  simp only [samplePin, requested, sampleEgress.issues, List.append_nil]

theorem validatePaymentPin_sample : validatePaymentPin samplePin = .ok samplePin := by
  have amount : parseAtomic samplePin.amountAtomic.text "Pinned payment amount" = .ok 1500 := parseAtomic_sample _
  have read : samplePin.parse = .ok samplePin := by
    refine parsed_eq_ok.mpr ⟨?_, ?_, samplePin_trimmed.symm⟩
    · intro url member
      simp only [List.mem_cons, List.not_mem_nil, or_false] at member
      rcases member with rfl | rfl
      · exact parse_route.1
      · exact parse_route.2.1
    · rw [samplePin_trimmed]
      exact samplePin_issues []
  refine bind_eq_ok.mpr ⟨_, safeParse_eq_ok.mpr read, bind_eq_ok.mpr ⟨_, amount, ?_⟩⟩
  rw [samplePin_normalized]
  rfl

omit [Sha256] in
theorem configuration_sample : parseEnabledSellerConfiguration (some sampleConfiguration) = .ok sampleConfiguration := by
  rw [← toOption_eq_some]
  decide +kernel

theorem pinned_sample :
    validatePaymentPinAgainstSellerConfiguration samplePin (some sampleConfiguration) = .ok samplePin := by
  obtain ⟨_, _, _, _, _, _, route, facilitator⟩ := parse_route
  refine bind_eq_ok.mpr ⟨_, configuration_sample, bind_eq_ok.mpr ⟨_, validatePaymentPin_sample, ?_⟩⟩
  refine refuseIf_bind_eq_ok.mpr ⟨not_not.mpr rfl, refuseIf_bind_eq_ok.mpr ⟨not_not.mpr rfl,
    refuseIf_bind_eq_ok.mpr ⟨not_not.mpr rfl, refuseIf_bind_eq_ok.mpr ⟨not_or.mpr ⟨not_not.mpr rfl, not_not.mpr rfl⟩,
    refuseIf_bind_eq_ok.mpr ⟨not_not.mpr rfl, refuseIf_bind_eq_ok.mpr ⟨not_not.mpr rfl,
    refuseIf_bind_eq_ok.mpr ⟨not_not.mpr rfl, bind_eq_ok.mpr ⟨true, route,
    refuseIf_bind_eq_ok.mpr ⟨Bool.true_eq_false_eq_False, bind_eq_ok.mpr ⟨true, facilitator,
    refuseIf_bind_eq_ok.mpr ⟨Bool.true_eq_false_eq_False, rfl⟩⟩⟩⟩⟩⟩⟩⟩⟩⟩⟩

variable {attemptId : Uuid} {idempotencyKey challengeId : String} {status : PaymentAttemptStatus} {nowUnix : Int}

theorem sampleChallenge_trimmed (plain : PlainIdentifier challengeId) :
    (sampleChallenge challengeId).trimmed = sampleChallenge challengeId := by
  have version : PlainIdentifier "v1" := .ofList (by decide)
  have nonce : PlainIdentifier "nonce-0001" := .ofList (by decide)
  simp only [PaymentChallenge.trimmed, sampleChallenge, sampleTerms, version.trimmed, nonce.trimmed, plain.trimmed]

theorem sampleChallenge_normalized : (sampleChallenge challengeId).normalized = sampleChallenge challengeId := by
  have asset : samplePin.settlementAsset.lowered = samplePin.settlementAsset :=
    congrArg PaymentPin.settlementAsset samplePin_normalized
  have recipient : samplePin.recipient.lowered = samplePin.recipient := congrArg PaymentPin.recipient samplePin_normalized
  have facilitator : normalizeHttpUrl samplePin.facilitatorEndpoint = samplePin.facilitatorEndpoint :=
    congrArg PaymentPin.facilitatorEndpoint samplePin_normalized
  simp only [PaymentChallenge.normalized, sampleChallenge, sampleTerms, asset, recipient, facilitator, parse_route.2.2.1]

theorem sampleChallenge_issues (plain : PlainIdentifier challengeId) (path : List String) :
    (sampleChallenge challengeId).issues path = [] := by
  have version : PlainIdentifier "v1" := .ofList (by decide)
  have nonce : PlainIdentifier "nonce-0001" := .ofList (by decide)
  have route : urlIssues (path ++ ["destination"]) sampleRoute = [] := if_pos parse_route.2.2.2.2.1
  have facilitator : urlIssues (path ++ ["facilitatorEndpoint"]) "https://facilitator.example/" = [] :=
    if_pos parse_route.2.2.2.2.2.1
  have long : 8 ≤ (utf16Units "nonce-0001").length := isPlain_long (by decide) (by decide)
  have marks : nonceIssues (path ++ ["nonce"]) "nonce-0001" = [] := nonce.nonceIssues long _
  have expiry : issueIf ((sampleChallenge challengeId).expiresAtUnix.value ≤ (sampleChallenge challengeId).issuedAtUnix.value)
    (path ++ ["expiresAtUnix"]) "Challenge expiry must follow issuance" = [] :=
    issueIf_eq_nil.mpr (show ¬(200 : Int) ≤ 100 by decide)
  have challengeId := plain.issues (path ++ ["challengeId"])
  simp only [PaymentChallenge.issues, expiry, List.append_nil]
  simp only [sampleChallenge, sampleTerms, challengeId, version.issues, route, marks, List.append_nil, List.nil_append]
  exact facilitator

theorem sampleChallenge_parse (plain : PlainIdentifier challengeId) :
    (sampleChallenge challengeId).parse = .ok (sampleChallenge challengeId) := by
  refine parsed_eq_ok.mpr ⟨?_, ?_, (sampleChallenge_trimmed plain).symm⟩
  · intro url member
    simp only [List.mem_cons, List.not_mem_nil, or_false] at member
    rcases member with rfl | rfl
    · exact parse_route.1
    · exact parse_route.2.1
  · rw [sampleChallenge_trimmed plain]
    exact sampleChallenge_issues plain []

theorem assertChallengeTerms_sample (low : 100 ≤ nowUnix) (high : nowUnix < 200) :
    assertChallengeTerms (sampleChallenge challengeId) samplePin nowUnix = .ok () := by
  obtain ⟨_, _, _, _, _, _, route, facilitator⟩ := parse_route
  have trusted : IsTrustedTime nowUnix := by
    unfold IsTrustedTime maxSafeInteger
    omega
  have expires : (sampleChallenge challengeId).expiresAtUnix.value = 200 := rfl
  have issued : (sampleChallenge challengeId).issuedAtUnix.value = 100 := rfl
  have lifetime : samplePin.maxChallengeLifetimeSeconds.value = 600 := rfl
  have rail : (sampleChallenge challengeId).rail = samplePin.rail := rfl
  have network : (sampleChallenge challengeId).settlementNetwork = samplePin.settlementNetwork := rfl
  have asset : (sampleChallenge challengeId).settlementAsset = samplePin.settlementAsset := rfl
  have decimals : (sampleChallenge challengeId).settlementDecimals = samplePin.settlementDecimals := rfl
  have price : (sampleChallenge challengeId).amountAtomic = samplePin.amountAtomic := rfl
  have recipient : (sampleChallenge challengeId).recipient = samplePin.recipient := rfl
  have method : (sampleChallenge challengeId).method = samplePin.method := rfl
  have destination : sameUrl (sampleChallenge challengeId).destination samplePin.destination = .ok true := route
  have endpoint : sameUrl (sampleChallenge challengeId).facilitatorEndpoint samplePin.facilitatorEndpoint = .ok true :=
    facilitator
  have timely : ¬(¬IsTrustedTime nowUnix ∨ (200 : Int) ≤ nowUnix) := not_or.mpr ⟨not_not.mpr trusted, by omega⟩
  have within : ¬(nowUnix + 600 < (200 : Int) ∨ (200 : Int) ≤ 100) := by omega
  have past : ¬nowUnix + 60 < (100 : Int) := by omega
  unfold assertChallengeTerms
  rw [rail, network, asset, decimals, price, recipient, method, destination, endpoint, expires, issued, lifetime]
  simp only [ne_eq, not_true_eq_false, Bool.true_eq_false, bind_eq_ok, refuseIf_eq_ok, timely, within,
    past, not_false_eq_true, true_and, Except.ok.injEq, exists_eq_left', exists_const]

theorem sampleChallenge_digest (challengeId : String) : (sampleChallenge challengeId).challengeDigest.text =
    (challengeUnsignedDigest (sampleTerms challengeId)).text := rfl

theorem challengeUnsignedDigest_signed (challenge : PaymentChallenge) (challengeDigest : ContentDigest) :
    challengeUnsignedDigest { challenge with challengeDigest := challengeDigest } = challengeUnsignedDigest challenge := rfl

theorem validateChallenge_sample (plain : PlainIdentifier challengeId) (low : 100 ≤ nowUnix) (high : nowUnix < 200) :
    validateChallenge (sampleChallenge challengeId) samplePin nowUnix = .ok (sampleChallenge challengeId) := by
  have priced : parseAtomic (sampleChallenge challengeId).amountAtomic.text "Challenge amount" = .ok 1500 :=
    parseAtomic_sample _
  have digest : (challengeUnsignedDigest (sampleChallenge challengeId)).text =
    (sampleChallenge challengeId).challengeDigest.text := congrArg (·.text) (challengeUnsignedDigest_signed _ _)
  unfold validateChallenge
  refine bind_eq_ok.mpr ⟨_, safeParse_eq_ok.mpr (sampleChallenge_parse plain), bind_eq_ok.mpr ⟨_, validatePaymentPin_sample, ?_⟩⟩
  refine bind_eq_ok.mpr ⟨_, priced, refuseIf_bind_eq_ok.mpr ⟨not_not.mpr digest, ?_⟩⟩
  refine bind_eq_ok.mpr ⟨_, assertChallengeTerms_sample low high, ?_⟩
  rw [sampleChallenge_normalized]
  rfl

structure PlainKey (text : String) : Prop where
  plain : PlainIdentifier text
  long : 8 ≤ (utf16Units text).length
  noted : PlainIdentifier ("action:" ++ text)

omit [Sha256] in
theorem PlainKey.ofList {chars : List Char} (plain : isPlain chars = true) (long : 8 ≤ chars.length)
    (noted : isPlain (['a', 'c', 't', 'i', 'o', 'n', ':'] ++ chars) = true) : PlainKey (String.ofList chars) := by
  have whole : "action:" ++ String.ofList chars = String.ofList (['a', 'c', 't', 'i', 'o', 'n', ':'] ++ chars) :=
    String.ofList_append.symm
  exact ⟨.ofList plain, isPlain_long plain long, whole ▸ .ofList noted⟩

theorem sampleAttempt_bindingIssues : (sampleAttempt attemptId idempotencyKey challengeId status).bindingIssues = [] := by
  have pinDigest : (sampleAttempt attemptId idempotencyKey challengeId status).pinDigest.text =
    (paymentPinDigest samplePin).text := rfl
  have pin : (sampleAttempt attemptId idempotencyKey challengeId status).pin = samplePin := rfl
  simp only [PaymentAttempt.bindingIssues, pinDigest, pin]
  simp only [sampleAttempt, sampleChallenge, sampleTerms, samplePin, ne_eq, not_true_eq_false, issueIf, if_false,
    List.append_nil]

theorem sampleAttempt_parse (key : PlainKey idempotencyKey) (plain : PlainIdentifier challengeId) :
    (sampleAttempt attemptId idempotencyKey challengeId status).parse =
      .ok (sampleAttempt attemptId idempotencyKey challengeId status) := by
  have trimmed : (sampleAttempt attemptId idempotencyKey challengeId status).trimmed =
      sampleAttempt attemptId idempotencyKey challengeId status := by
    simp only [PaymentAttempt.trimmed, sampleAttempt, sampleRequest.trimmed, key.plain.trimmed, sampleChallenge_trimmed plain,
      samplePin_trimmed, Option.map_none]
  refine parsed_eq_ok.mpr ⟨?_, ?_, trimmed.symm⟩
  · intro url member
    simp only [List.mem_cons, List.not_mem_nil, or_false] at member
    rcases member with rfl | rfl | rfl | rfl
    · exact parse_route.1
    · exact parse_route.2.1
    · exact parse_route.1
    · exact parse_route.2.1
  · have requested := sampleRequest.issues ["requestId"]
    have keyed := key.plain.keyIssues key.long ["idempotencyKey"]
    have challenged := sampleChallenge_issues plain ["challenge"]
    have pinned := samplePin_issues ["pin"]
    rw [trimmed, PaymentAttempt.issues, sampleAttempt_bindingIssues]
    simp only [sampleAttempt, requested, keyed, challenged, pinned, Option.map_none, Option.getD_none, List.append_nil]

def sampleRepository : PaymentRepository := ⟨sampleConfiguration, []⟩

abbrev newAttempt (attemptId : Uuid) (idempotencyKey challengeId : String) : PaymentAttempt :=
  sampleAttempt attemptId idempotencyKey challengeId .challenged

theorem normalizeAttempt_sample (key : PlainKey idempotencyKey) (plain : PlainIdentifier challengeId) :
    sampleRepository.normalizeAttempt (sampleAttempt attemptId idempotencyKey challengeId status) =
      .ok (sampleAttempt attemptId idempotencyKey challengeId status, samplePin) := by
  have read := @sampleAttempt_parse _ attemptId idempotencyKey challengeId status key plain
  have challenge : validateChallenge (sampleAttempt attemptId idempotencyKey challengeId status).challenge samplePin
      (sampleAttempt attemptId idempotencyKey challengeId status).challenge.issuedAtUnix.value =
    .ok (sampleChallenge challengeId) := validateChallenge_sample plain (Int.le_refl 100) (show (100 : Int) < 200 by decide)
  refine bind_eq_ok.mpr ⟨_, read, bind_eq_ok.mpr ⟨samplePin, pinned_sample, bind_eq_ok.mpr ⟨_, challenge, ?_⟩⟩⟩
  exact bind_eq_ok.mpr ⟨sampleAttempt attemptId idempotencyKey challengeId status, read, rfl⟩

structure RoomFor (memory : PaymentMemory) (attemptId : Uuid) (idempotencyKey challengeId : String) : Prop where
  attempt : memory.attempts.get attemptId = none
  action : memory.actions.get idempotencyKey = none
  event : memory.events.get ("action:" ++ idempotencyKey) = none
  challenge : memory.assertChallengeFree (sampleChallenge challengeId) = .ok ()

def sampleCommit (eventId attemptId : Uuid) (idempotencyKey challengeId : String) (status : PaymentAttemptStatus) :
    PaymentCommit :=
  let attempt := sampleAttempt attemptId idempotencyKey challengeId status
  creationCommit idempotencyKey (creationRequestDigest attempt).text attempt
    (challengeIssuedEvent eventId idempotencyKey attempt)

variable {memory : PaymentMemory} {eventId : Uuid}

theorem challengeIssuedEvent_sample (key : PlainKey idempotencyKey) :
    (challengeIssuedEvent eventId idempotencyKey (sampleAttempt attemptId idempotencyKey challengeId status)).parse =
      .ok (challengeIssuedEvent eventId idempotencyKey (sampleAttempt attemptId idempotencyKey challengeId status)) := by
  have requested := sampleRequest.issues ["correlationId"]
  have noted := key.noted.issues ["eventKey"]
  simp only [PaymentEvent.parse, challengeIssuedEvent, sampleAttempt, key.noted.trimmed, sampleRequest.trimmed, requested, noted,
    List.append_nil, if_true]

/-- `create` prepares the commit of a sample attempt, where no other attempt has its challenge. -/
theorem create_sample (key : PlainKey idempotencyKey) (plain : PlainIdentifier challengeId)
    (room : RoomFor memory attemptId idempotencyKey challengeId)
    (single : ∀ attempt ∈ memory.attempts.values, attempt.challenge.challengeId ≠ challengeId) :
    sampleRepository.create 100 eventId memory (sampleAttempt attemptId idempotencyKey challengeId status) =
      .ok (.commits (sampleCommit eventId attemptId idempotencyKey challengeId status)
        (.created (sampleAttempt attemptId idempotencyKey challengeId status) false)) := by
  have read : parseIdempotencyKey (sampleAttempt attemptId idempotencyKey challengeId status).idempotencyKey = .ok idempotencyKey := by
    have issues : keyIssues [] idempotencyKey = [] := key.plain.keyIssues key.long []
    simp only [parseIdempotencyKey, sampleAttempt, key.plain.trimmed, issues, if_true]
  have clock : trustedNowUnix 100 = .ok ⟨100, by decide, by decide⟩ := rfl
  have digest : assertChallengeDigest (sampleChallenge challengeId) = .ok () :=
    refuseIf_eq_ok.mpr (not_not.mpr (congrArg (·.text) (challengeUnsignedDigest_signed _ _)))
  have fresh : memory.assertNewAttempt (sampleAttempt attemptId idempotencyKey challengeId status) = .ok () := by
    refine refuseIf_bind_eq_ok.mpr ⟨?_, refuseIf_bind_eq_ok.mpr ⟨?_, room.challenge⟩⟩
    · have absent : memory.attempts.get (sampleAttempt attemptId idempotencyKey challengeId status).attemptId = none := room.attempt
      rw [absent]
      exact Bool.false_ne_true
    · intro shared
      obtain ⟨attempt, member, same⟩ := List.any_eq_true.mp shared
      exact single attempt member (of_decide_eq_true same)
  have challenge : validateChallenge (sampleAttempt attemptId idempotencyKey challengeId status).challenge samplePin
      (sampleAttempt attemptId idempotencyKey challengeId status).createdAtUnix.value = .ok (sampleChallenge challengeId) :=
    validateChallenge_sample plain (Int.le_refl 100) (show (100 : Int) < 200 by decide)
  have accepted : CreationAccepted sampleRepository 100 eventId memory (sampleAttempt attemptId idempotencyKey challengeId status)
      samplePin idempotencyKey (sampleAttempt attemptId idempotencyKey challengeId status)
      (challengeIssuedEvent eventId idempotencyKey (sampleAttempt attemptId idempotencyKey challengeId status)) :=
    ⟨read, room.action, ⟨(sampleAttempt attemptId idempotencyKey challengeId status).createdAtUnix, _, clock, challenge,
      sampleAttempt_parse key plain⟩, digest, fresh, challengeIssuedEvent_sample key⟩
  exact create_commits_iff.mpr ⟨_, _, idempotencyKey, _, _, normalizeAttempt_sample key plain, accepted, rfl, rfl⟩

/-- The checks of a commit pass wherever there is room for the attempt, with any event and any receipt. -/
theorem commitChecks_sample {event : PaymentEvent} {receipt : Option PaymentReceipt} (key : PlainKey idempotencyKey)
    (plain : PlainIdentifier challengeId) (room : RoomFor memory attemptId idempotencyKey challengeId)
    (noted : event.parse = .ok event) (own : event.attemptId = attemptId)
    (named : event.eventKey = "action:" ++ idempotencyKey) {input : PaymentCommit}
    (made : input = { sampleCommit eventId attemptId idempotencyKey challengeId status with
      event := event, receipt := receipt }) :
    (do
      let action ← sampleRepository.validateCommit input
      memory.assertUnused action input
      return action : Except PaymentFailure String) = .ok idempotencyKey := by
  have read : parseIdempotencyKey idempotencyKey = .ok idempotencyKey := by
    have issues : keyIssues [] idempotencyKey = [] := key.plain.keyIssues key.long []
    simp only [parseIdempotencyKey, key.plain.trimmed, issues, if_true]
  have digest : assertChallengeDigest (sampleChallenge challengeId) = .ok () :=
    refuseIf_eq_ok.mpr (not_not.mpr (congrArg (·.text) (challengeUnsignedDigest_signed _ _)))
  subst made
  have valid : sampleRepository.validateCommit { sampleCommit eventId attemptId idempotencyKey challengeId status with
      event := event, receipt := receipt } = .ok idempotencyKey := by
    refine bind_eq_ok.mpr ⟨_, read, bind_eq_ok.mpr ⟨_, sampleAttempt_parse key plain, bind_eq_ok.mpr ⟨_, pinned_sample,
      bind_eq_ok.mpr ⟨_, digest, bind_eq_ok.mpr ⟨_, noted, ?_⟩⟩⟩⟩⟩
    refine refuseIf_bind_eq_ok.mpr ⟨not_or.mpr ⟨not_not.mpr own, not_not.mpr named⟩, refuseIf_bind_eq_ok.mpr ⟨?_, ?_⟩⟩
    · exact any_ne_eq_false.mpr fun challenge same => by cases Option.some.inj same; rfl
    · exact bind_eq_ok.mpr ⟨_, digest, rfl⟩
  have unused : memory.assertUnused idempotencyKey { sampleCommit eventId attemptId idempotencyKey challengeId status with
      event := event, receipt := receipt } = .ok () := by
    have attempt : memory.attempts.get (sampleCommit eventId attemptId idempotencyKey challengeId status).attempt.attemptId =
      none := room.attempt
    have free : (sampleCommit eventId attemptId idempotencyKey challengeId status).challenge.forM memory.assertChallengeFree =
      .ok () := room.challenge
    have expected : assertExpectedAttempt none
      (sampleCommit eventId attemptId idempotencyKey challengeId status).expectedAttempt = .ok () := rfl
    simp only [PaymentMemory.assertUnused, attempt, named, room.event, room.action, expected, free]
    rfl
  exact bind_eq_ok.mpr ⟨_, valid, bind_eq_ok.mpr ⟨_, unused, rfl⟩⟩

theorem commit_sample (key : PlainKey idempotencyKey) (plain : PlainIdentifier challengeId)
    (room : RoomFor memory attemptId idempotencyKey challengeId) :
    sampleRepository.commit memory (sampleCommit eventId attemptId idempotencyKey challengeId status) =
      (.ok (), (memory.withChallenge (sampleChallenge challengeId)).committed idempotencyKey
        (sampleCommit eventId attemptId idempotencyKey challengeId status)) := by
  have passed := @commitChecks_sample _ attemptId idempotencyKey challengeId status memory eventId _ none key plain room
    (@challengeIssuedEvent_sample _ attemptId idempotencyKey challengeId status eventId key) rfl rfl (sampleCommit eventId attemptId idempotencyKey challengeId status) rfl
  simp only [PaymentRepository.commit, passed]
  rfl

@[irreducible] def PaymentMemory.withSample (memory : PaymentMemory) (eventId attemptId : Uuid)
    (idempotencyKey challengeId : String) (status : PaymentAttemptStatus) : PaymentMemory :=
  (memory.withChallenge (sampleChallenge challengeId)).committed idempotencyKey
    (sampleCommit eventId attemptId idempotencyKey challengeId status)

theorem executes_sample (key : PlainKey idempotencyKey) (plain : PlainIdentifier challengeId)
    (room : RoomFor memory attemptId idempotencyKey challengeId) :
    sampleRepository.Executes (.commit (sampleCommit eventId attemptId idempotencyKey challengeId status)) memory (.ok ())
      (memory.withSample eventId attemptId idempotencyKey challengeId status) := by
  have executed := @PaymentRepository.Executes.commit _ _ sampleRepository
    (sampleCommit eventId attemptId idempotencyKey challengeId status) memory
  rw [commit_sample key plain room] at executed
  unfold PaymentMemory.withSample
  exact executed

variable {key : String} {other : Uuid}

theorem withSample_attempts : (memory.withSample eventId attemptId idempotencyKey challengeId status).attempts =
    memory.attempts.set attemptId (sampleAttempt attemptId idempotencyKey challengeId status) := by
  unfold PaymentMemory.withSample
  rfl

theorem withSample_actions (apart : key ≠ idempotencyKey) :
    (memory.withSample eventId attemptId idempotencyKey challengeId status).actions.get key = memory.actions.get key := by
  unfold PaymentMemory.withSample
  exact OrderedMap.get_set_ne apart

theorem withSample_events (apart : key ≠ "action:" ++ idempotencyKey) :
    (memory.withSample eventId attemptId idempotencyKey challengeId status).events.get key = memory.events.get key := by
  unfold PaymentMemory.withSample
  exact OrderedMap.get_set_ne apart

theorem withSample_challenges : (memory.withSample eventId attemptId idempotencyKey challengeId status).challenges =
      memory.challenges.set challengeId (sampleChallenge challengeId) ∧
    (memory.withSample eventId attemptId idempotencyKey challengeId status).challengeDigests =
      memory.challengeDigests.set (sampleChallenge challengeId).challengeDigest challengeId := by
  unfold PaymentMemory.withSample
  exact ⟨rfl, rfl⟩

theorem withSample_receipts : (memory.withSample eventId attemptId idempotencyKey challengeId status).receipts = memory.receipts ∧
    (memory.withSample eventId attemptId idempotencyKey challengeId status).receiptIds = memory.receiptIds ∧
    (memory.withSample eventId attemptId idempotencyKey challengeId status).receiptDigests = memory.receiptDigests := by
  unfold PaymentMemory.withSample
  exact ⟨rfl, rfl, rfl⟩

variable {permits : Moment PaymentCall PaymentOp PaymentResult → PaymentProcess → Prop} {initial : PaymentMemory → Prop}
  {returned : List (PaymentCall × PaymentResult)}

theorem createSample_reach (eventId : Uuid) (status : PaymentAttemptStatus) (key : PlainKey idempotencyKey) (plain : PlainIdentifier challengeId)
    (room : RoomFor memory attemptId idempotencyKey challengeId)
    (single : ∀ attempt ∈ memory.attempts.values, attempt.challenge.challengeId ≠ challengeId)
    (called : ∀ now, permits (.called (.create (sampleAttempt attemptId idempotencyKey challengeId status))) now)
    (enters : ∀ now, permits .entered now)
    (acts : ∀ call now, now.maps = memory →
      permits (.acted call (.commit (sampleCommit eventId attemptId idempotencyKey challengeId status))) now)
    (leaves : ∀ call result now, permits (.left call result) now)
    (reach : sampleRepository.service.Reach permits initial ⟨memory, [], none, returned⟩) :
    ∃ returned, sampleRepository.service.Reach permits initial
      ⟨memory.withSample eventId attemptId idempotencyKey challengeId status, [], none, returned⟩ := by
  have prepared : sampleRepository.prepare 100 eventId memory (.create (sampleAttempt attemptId idempotencyKey challengeId status)) =
      some (.ok (.commits (sampleCommit eventId attemptId idempotencyKey challengeId status)
        (.created (sampleAttempt attemptId idempotencyKey challengeId status) false))) :=
    congrArg some (create_sample key plain room single)
  have joined := reach.next (called _) (.joined (.commits prepared))
  have passed : ¬sampleRepository.service.failed (.ok (.created (sampleAttempt attemptId idempotencyKey challengeId status) false)) :=
    fun ⟨_, same⟩ => (nomatch same)
  exact ⟨_, joined.served (executes_sample key plain room) rfl passed enters (acts _) (leaves _ _)⟩

end

def buyerAttemptId : Uuid := ⟨"00000000-0000-4000-8000-00000000000a", by decide +kernel⟩

def otherAttemptId : Uuid := ⟨"00000000-0000-4000-8000-00000000000b", by decide +kernel⟩

theorem attempts_apart : buyerAttemptId ≠ otherAttemptId := by decide +kernel

theorem firstKey : PlainKey "payment-1" := .ofList (by decide) (by decide) (by decide)

theorem secondKey : PlainKey "payment-2" := .ofList (by decide) (by decide) (by decide)

theorem firstChallenge : PlainIdentifier "challenge-1" := .ofList (by decide)

theorem secondChallenge : PlainIdentifier "challenge-2" := .ofList (by decide)

end Bnbera.Payments
