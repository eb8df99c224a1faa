import Bnbera.Payments.Creation
import Bnbera.Payments.Rendering

/-! Whether a challenge that was validated once passes its validation again. -/

namespace Bnbera.Payments

section
variable [UrlParser]

/-- The normal form of an accepted URL is accepted, and it is its own normal form. -/
structure IdempotentUrls : Prop where
  accepted : ∀ {text}, isHttpUrl text = true → isHttpUrl (normalizeHttpUrl text) = true
  normal : ∀ {text}, isHttpUrl text = true → normalizeHttpUrl (normalizeHttpUrl text) = normalizeHttpUrl text

def PaymentChallenge.SpelledNormally (challenge : PaymentChallenge) : Prop :=
  challenge.settlementAsset.lowered = challenge.settlementAsset ∧ challenge.recipient.lowered = challenge.recipient ∧
    normalizeHttpUrl challenge.destination = challenge.destination ∧
    normalizeHttpUrl challenge.facilitatorEndpoint = challenge.facilitatorEndpoint

theorem PaymentChallenge.normalized_trimmed (challenge : PaymentChallenge) :
    challenge.trimmed.normalized.trimmed = challenge.trimmed.normalized := by
  simp only [trimmed, normalized, trim_trim]

theorem isHttpUrl_of_urlIssues {path : List String} {text : String} (none : urlIssues path text = []) : isHttpUrl text = true := by
  by_contra broken
  rw [urlIssues, if_neg broken] at none
  cases none

theorem urlIssues_eq_nil {path : List String} {text : String} (http : isHttpUrl text = true) : urlIssues path text = [] :=
  if_pos http

theorem PaymentChallenge.parse_urls {challenge result : PaymentChallenge} (read : challenge.parse = .ok result) :
    isHttpUrl challenge.destination = true ∧ isHttpUrl challenge.facilitatorEndpoint = true := by
  obtain ⟨_, issues, _⟩ := parsed_eq_ok.mp read
  simp only [PaymentChallenge.issues, List.append_eq_nil_iff] at issues
  obtain ⟨⟨⟨⟨⟨_, _⟩, destination⟩, facilitator⟩, _⟩, _⟩ := issues
  exact ⟨isHttpUrl_of_urlIssues destination, isHttpUrl_of_urlIssues facilitator⟩

variable (urls : IdempotentUrls)
include urls

theorem PaymentChallenge.parse_normalized {challenge result : PaymentChallenge} (read : challenge.parse = .ok result) :
    challenge.trimmed.normalized.parse = .ok challenge.trimmed.normalized := by
  obtain ⟨destination, facilitator⟩ := PaymentChallenge.parse_urls read
  obtain ⟨_, issues, _⟩ := parsed_eq_ok.mp read
  simp only [PaymentChallenge.issues, List.append_eq_nil_iff] at issues
  obtain ⟨⟨⟨⟨⟨id, version⟩, _⟩, _⟩, nonce⟩, expiry⟩ := issues
  have parses : ∀ {text}, isHttpUrl text = true → (UrlParser.parse (normalizeHttpUrl text)).isSome := by
    intro text http
    have again := urls.accepted http
    rw [isHttpUrl] at again
    exact Option.isSome_of_any again
  refine parsed_eq_ok.mpr ⟨?_, ?_, challenge.normalized_trimmed.symm⟩
  · intro url member
    simp only [List.mem_cons, List.not_mem_nil, or_false] at member
    rcases member with rfl | rfl
    · exact parses destination
    · exact parses facilitator
  · rw [PaymentChallenge.normalized_trimmed]
    simp only [PaymentChallenge.issues, List.append_eq_nil_iff]
    exact ⟨⟨⟨⟨⟨id, version⟩, urlIssues_eq_nil (urls.accepted destination)⟩, urlIssues_eq_nil (urls.accepted facilitator)⟩, nonce⟩,
      expiry⟩

theorem sameUrl_normalized {text other : String} (http : isHttpUrl text = true) :
    sameUrl (normalizeHttpUrl text) other = sameUrl text other := by
  have first : normalizeUrl (normalizeHttpUrl text) "URL" = normalizeUrl text "URL" := by
    rw [normalizeUrl, normalizeUrl, if_pos http, if_pos (urls.accepted http), urls.normal http]
  rw [sameUrl, sameUrl, first]

theorem assertChallengeTerms_normalized {challenge : PaymentChallenge} (destination : isHttpUrl challenge.destination = true)
    (facilitator : isHttpUrl challenge.facilitatorEndpoint = true) (pin : PaymentPin) (nowUnix : Int) :
    assertChallengeTerms challenge.normalized pin nowUnix = assertChallengeTerms challenge pin nowUnix := by
  simp only [assertChallengeTerms, PaymentChallenge.normalized, NonZeroAddress.lowered_lowered, sameUrl_normalized urls destination,
    sameUrl_normalized urls facilitator]
  congr!

variable [Sha256] {repository : PaymentRepository} {nowUnix : Int} {pin : PaymentPin} {challenge result : PaymentChallenge}

omit urls in
/-- What `validateChallenge` has checked of a challenge that it accepts. -/
theorem validateChallenge_eq_ok : validateChallenge challenge pin nowUnix = .ok result ↔
    challenge.parse = .ok challenge.trimmed ∧
      (∃ trustedPin amount, validatePaymentPin pin = .ok trustedPin ∧
        parseAtomic challenge.amountAtomic.text "Challenge amount" = .ok amount ∧
        assertChallengeTerms challenge.trimmed trustedPin nowUnix = .ok ()) ∧
      (challengeUnsignedDigest challenge.trimmed).text = challenge.challengeDigest.text ∧
      result = challenge.trimmed.normalized := by
  constructor
  · intro valid
    obtain ⟨parsed, read, rest⟩ := bind_eq_ok.mp valid
    have read := safeParse_eq_ok.mp read
    cases (parsed_eq_ok.mp read).2.2
    obtain ⟨trustedPin, pinned, rest⟩ := bind_eq_ok.mp rest
    obtain ⟨amount, priced, rest⟩ := bind_eq_ok.mp rest
    obtain ⟨digest, rest⟩ := refuseIf_bind_eq_ok.mp rest
    obtain ⟨_, terms, rest⟩ := bind_eq_ok.mp rest
    exact ⟨read, ⟨trustedPin, amount, pinned, priced, terms⟩, not_not.mp digest, (Except.ok.inj rest).symm⟩
  · rintro ⟨read, ⟨trustedPin, amount, pinned, priced, terms⟩, digest, rfl⟩
    exact bind_eq_ok.mpr ⟨_, safeParse_eq_ok.mpr read, bind_eq_ok.mpr ⟨_, pinned, bind_eq_ok.mpr ⟨_, priced,
      refuseIf_bind_eq_ok.mpr ⟨not_not.mpr digest, bind_eq_ok.mpr ⟨_, terms, rfl⟩⟩⟩⟩⟩

def SameDigest (challenge : PaymentChallenge) : Prop :=
  challengeUnsignedDigest challenge.trimmed.normalized = challengeUnsignedDigest challenge.trimmed

omit [Sha256] in
theorem PaymentChallenge.normalized_normalized (destination : isHttpUrl challenge.destination = true)
    (facilitator : isHttpUrl challenge.facilitatorEndpoint = true) : challenge.normalized.normalized = challenge.normalized := by
  simp only [normalized, NonZeroAddress.lowered_lowered, urls.normal destination, urls.normal facilitator]

theorem validateChallenge_again (accepted : validateChallenge challenge pin nowUnix = .ok result) :
    validateChallenge result pin nowUnix = .ok result ↔ SameDigest challenge := by
  obtain ⟨read, ⟨trustedPin, amount, pinned, priced, terms⟩, digest, rfl⟩ := validateChallenge_eq_ok.mp accepted
  have destination : isHttpUrl challenge.trimmed.destination = true := (PaymentChallenge.parse_urls read).1
  have facilitator : isHttpUrl challenge.trimmed.facilitatorEndpoint = true := (PaymentChallenge.parse_urls read).2
  rw [validateChallenge_eq_ok, PaymentChallenge.normalized_trimmed]
  constructor
  · rintro ⟨_, _, same, _⟩
    exact Normalized.ext (same.trans digest.symm)
  · intro same
    refine ⟨PaymentChallenge.parse_normalized urls read, ⟨trustedPin, amount, pinned, priced, ?_⟩, ?_, ?_⟩
    · rw [assertChallengeTerms_normalized urls destination facilitator]
      exact terms
    · rw [same, digest]
      rfl
    · exact (PaymentChallenge.normalized_normalized urls destination facilitator).symm

/-- `create` takes a new attempt with this challenge and this trusted pin, if nothing but its
challenge stands against it. -/
def CreateAccepts (challenge : PaymentChallenge) (pin : PaymentPin) (nowUnix : Int) : Prop :=
  ∀ repository eventId memory input normalizedInput createdAtUnix key event,
    PaymentRepository.normalizeAttempt repository input = .ok (normalizedInput, pin) → input.challenge = challenge →
    trustedNowUnix nowUnix = .ok createdAtUnix → parseIdempotencyKey normalizedInput.idempotencyKey = .ok key →
    memory.actions.get key = none →
    memory.assertNewAttempt { normalizedInput with createdAtUnix := createdAtUnix, updatedAtUnix := createdAtUnix } = .ok () →
    (challengeIssuedEvent eventId key
      { normalizedInput with createdAtUnix := createdAtUnix, updatedAtUnix := createdAtUnix }).parse = .ok event →
    ∃ commit answer, repository.create nowUnix eventId memory input = .ok (.commits commit answer)

omit urls in
theorem normalizeAttempt_challenge {input normalizedInput : PaymentAttempt}
    (normalized : repository.normalizeAttempt input = .ok (normalizedInput, pin)) :
    normalizedInput.challenge = input.challenge.trimmed.normalized ∧ normalizedInput.parse = .ok normalizedInput := by
  obtain ⟨parsedAttempt, read, rest⟩ := bind_eq_ok.mp normalized
  obtain ⟨trustedPin, _, rest⟩ := bind_eq_ok.mp rest
  obtain ⟨normalChallenge, valid, rest⟩ := bind_eq_ok.mp rest
  obtain ⟨normal, again, rest⟩ := bind_eq_ok.mp rest
  cases Except.ok.inj rest
  refine ⟨?_, PaymentAttempt.parse_parse again⟩
  have challenges : normalizedInput.challenge = normalChallenge.trimmed :=
    congrArg PaymentAttempt.challenge (PaymentAttempt.parse_eq_ok again)
  obtain ⟨_, _, _, rfl⟩ := validateChallenge_eq_ok.mp valid
  have given : parsedAttempt.challenge = input.challenge.trimmed := congrArg PaymentAttempt.challenge (PaymentAttempt.parse_eq_ok read)
  rw [challenges, PaymentChallenge.normalized_trimmed, given, PaymentChallenge.trimmed_trimmed]

omit urls in
theorem PaymentAttempt.parse_timed {attempt : PaymentAttempt} (read : attempt.parse = .ok attempt) (time : UnixSeconds) :
    PaymentAttempt.parse { attempt with createdAtUnix := time, updatedAtUnix := time } =
      .ok { attempt with createdAtUnix := time, updatedAtUnix := time } := by
  obtain ⟨links, issues, same⟩ := parsed_eq_ok.mp read
  refine parsed_eq_ok.mpr ⟨links, issues, ?_⟩
  exact congrArg (fun attempt : PaymentAttempt => { attempt with createdAtUnix := time, updatedAtUnix := time }) same

omit [UrlParser] urls [Sha256] in
theorem trustedNowUnix_value {createdAtUnix : UnixSeconds} (clock : trustedNowUnix nowUnix = .ok createdAtUnix) :
    createdAtUnix.value = nowUnix := by
  unfold trustedNowUnix within? at clock
  by_cases bounds : 1 ≤ nowUnix ∧ nowUnix ≤ maxSafeInteger
  · rw [dif_pos bounds] at clock
    cases clock
    rfl
  · rw [dif_neg bounds] at clock
    cases clock

theorem createAccepts_of_sameDigest (accepted : validateChallenge challenge pin nowUnix = .ok result)
    (same : SameDigest challenge) : CreateAccepts challenge pin nowUnix := by
  intro repository eventId memory input normalizedInput createdAtUnix key event normalized given clock read unused fresh noted
  have valid := (validateChallenge_again urls accepted).mpr same
  obtain ⟨_, _, digest, rfl⟩ := validateChallenge_eq_ok.mp accepted
  obtain ⟨challenges, parsed⟩ := normalizeAttempt_challenge normalized
  rw [given] at challenges
  have time := trustedNowUnix_value clock
  refine ⟨_, _, create_commits_iff.mpr ⟨normalizedInput, pin, key, _, event, normalized, ⟨read, unused,
    ⟨createdAtUnix, challenge.trimmed.normalized, clock, ?_, ?_⟩, ?_, fresh, noted⟩, rfl, rfl⟩⟩
  · rw [challenges, time]
    exact valid
  · rw [← challenges]
    exact PaymentAttempt.parse_timed parsed createdAtUnix
  · refine refuseIf_eq_ok.mpr (not_not.mpr ?_)
    show (challengeUnsignedDigest normalizedInput.challenge).text = normalizedInput.challenge.challengeDigest.text
    rw [challenges, same, digest]
    rfl

omit urls [Sha256] in
theorem PaymentChallenge.SpelledNormally.normalized_eq (spelled : challenge.SpelledNormally) : challenge.normalized = challenge := by
  obtain ⟨asset, recipient, destination, facilitator⟩ := spelled
  simp only [normalized, asset, recipient, destination, facilitator]

def PaymentChallenge.Collides (challenge : PaymentChallenge) : Prop :=
  challengeUnsignedDigest challenge.trimmed.normalized = challengeUnsignedDigest challenge.trimmed ∧
    canonicalizeJson (.obj challenge.trimmed.normalized.unsignedFields) ≠ canonicalizeJson (.obj challenge.trimmed.unsignedFields)

omit urls [Sha256] in
theorem PaymentChallenge.spelledNormally_of_text
    (same : canonicalizeJson (.obj challenge.trimmed.normalized.unsignedFields) = canonicalizeJson (.obj challenge.trimmed.unsignedFields)) :
    challenge.SpelledNormally := by
  have wellFormed : ∀ challenge : PaymentChallenge, (Json.obj challenge.unsignedFields).wellFormed = true := by
    intro challenge
    simp [PaymentChallenge.unsignedFields, Json.wellFormed, wellFormedFields, renders_chainId.1]
  have fields := canonicalizeJson_field (wellFormed _) (wellFormed _) same
  exact ⟨renders_text.2 _ _ (Option.some.inj (fields "settlementAsset")), renders_text.2 _ _ (Option.some.inj (fields "recipient")),
    renders_str.2 _ _ (Option.some.inj (fields "destination")), renders_str.2 _ _ (Option.some.inj (fields "facilitatorEndpoint"))⟩

omit urls in
theorem sameDigest_iff : SameDigest challenge ↔ challenge.SpelledNormally ∨ challenge.Collides := by
  constructor
  · intro same
    by_cases texts : canonicalizeJson (.obj challenge.trimmed.normalized.unsignedFields) =
      canonicalizeJson (.obj challenge.trimmed.unsignedFields)
    · exact .inl (PaymentChallenge.spelledNormally_of_text texts)
    · exact .inr ⟨same, texts⟩
  · rintro (spelled | ⟨same, _⟩)
    · have normal : challenge.trimmed.normalized = challenge.trimmed := PaymentChallenge.SpelledNormally.normalized_eq spelled
      exact congrArg challengeUnsignedDigest normal
    · exact same

/-- For every accepted challenge: its validation is stable, and `create` takes every new attempt with
it, exactly if it is spelled normally, collisions of SHA-256 apart. -/
theorem validateChallenge_stable_iff (accepted : validateChallenge challenge pin nowUnix = .ok result) :
    (validateChallenge result pin nowUnix = .ok result ∧ CreateAccepts challenge pin nowUnix) ↔
      challenge.SpelledNormally ∨ challenge.Collides := by
  rw [← sameDigest_iff]
  constructor
  · rintro ⟨again, _⟩
    exact (validateChallenge_again urls accepted).mp again
  · intro same
    exact ⟨(validateChallenge_again urls accepted).mpr same, createAccepts_of_sameDigest urls accepted same⟩

end

def letteredPin : PaymentPin :=
  { @samplePin plainUrls nullSha256 with recipient := ⟨"0xaaaaaaaaaaaaaaaaaaaaaaaaaaaaaaaaaaaaaaaa", by decide +kernel⟩ }

def shoutedChallenge : PaymentChallenge :=
  { @sampleTerms plainUrls nullSha256 "challenge-1" with
    recipient := ⟨"0xAAAAAAAAAAAAAAAAAAAAAAAAAAAAAAAAAAAAAAAA", by decide +kernel⟩
    challengeDigest := ⟨"1938d99b020309ceb405e6cbaab8ab9ca59741c5aa29d5ef6a31f61c3f99e989", by decide +kernel⟩ }

@[reducible] def shoutedSha256 : Sha256 where
  sha256Hex text :=
    if text = canonicalizeJson (.obj shoutedChallenge.unsignedFields) then
      ⟨"1938d99b020309ceb405e6cbaab8ab9ca59741c5aa29d5ef6a31f61c3f99e989", by decide +kernel, by decide +kernel⟩
    else ⟨"a26a0c276559c7b56de278d817f76ae83a45ba28bd92e42791eea541121d157f", by decide +kernel, by decide +kernel⟩

section
attribute [local instance] plainUrls shoutedSha256

theorem plainUrls_idempotent : IdempotentUrls := by
  have read : ∀ {text : String}, isHttpUrl text = true → UrlParser.parse text = some ⟨"https:", "", "", text⟩ := by
    intro text http
    unfold isHttpUrl at http
    show (if _ then _ else _) = _
    by_cases plain : "https://".toList.isPrefixOf text.toList
    · exact if_pos plain
    · rw [show UrlParser.parse text = none from if_neg plain] at http
      cases http
  refine ⟨fun http => ?_, fun http => ?_⟩
  · rw [(plainUrl_read (read http)).2.1]
    exact http
  · rw [(plainUrl_read (read http)).2.1, (plainUrl_read (read http)).2.1]

theorem shouted_lowered : letteredPin.recipient.lowered = letteredPin.recipient ∧
    shoutedChallenge.recipient.lowered = letteredPin.recipient :=
  ⟨Checked.ext (lower_ofList (by decide)), Checked.ext (by decide +kernel)⟩

theorem validatePaymentPin_lettered : validatePaymentPin letteredPin = .ok letteredPin := by
  have plain := @samplePin_trimmed nullSha256
  have trimmed : letteredPin.trimmed = letteredPin :=
    congrArg (fun pin : PaymentPin => { pin with recipient := letteredPin.recipient }) plain
  have normalized : letteredPin.normalized = letteredPin := by
    have same := congrArg (fun pin : PaymentPin => { pin with recipient := letteredPin.recipient.lowered })
      (@samplePin_normalized nullSha256)
    exact same.trans (congrArg (fun recipient => { letteredPin with recipient := recipient }) shouted_lowered.1)
  refine bind_eq_ok.mpr ⟨_, safeParse_eq_ok.mpr (parsed_eq_ok.mpr ⟨?_, ?_, trimmed.symm⟩), bind_eq_ok.mpr ⟨_, parseAtomic_sample _, ?_⟩⟩
  · intro url member
    simp only [List.mem_cons, List.not_mem_nil, or_false] at member
    rcases member with rfl | rfl
    · exact parse_route.1
    · exact parse_route.2.1
  · rw [trimmed]
    exact @samplePin_issues nullSha256 []
  · rw [normalized]
    rfl

theorem shoutedChallenge_parse : shoutedChallenge.parse = .ok shoutedChallenge := by
  have plain : PlainIdentifier "challenge-1" := .ofList (by decide)
  have trimmed : shoutedChallenge.trimmed = shoutedChallenge :=
    congrArg (fun challenge : PaymentChallenge => { challenge with
      recipient := shoutedChallenge.recipient, challengeDigest := shoutedChallenge.challengeDigest })
      (@sampleChallenge_trimmed nullSha256 _ plain)
  refine parsed_eq_ok.mpr ⟨?_, ?_, trimmed.symm⟩
  · intro url member
    simp only [List.mem_cons, List.not_mem_nil, or_false] at member
    rcases member with rfl | rfl
    · exact parse_route.1
    · exact parse_route.2.1
  · rw [trimmed]
    exact @sampleChallenge_issues nullSha256 _ plain []

theorem assertChallengeTerms_shouted : assertChallengeTerms shoutedChallenge letteredPin 150 = .ok () := by
  obtain ⟨_, _, _, _, _, _, route, facilitator⟩ := parse_route
  have trusted : IsTrustedTime 150 := ⟨by decide, by decide⟩
  have expires : shoutedChallenge.expiresAtUnix.value = 200 := rfl
  have issued : shoutedChallenge.issuedAtUnix.value = 100 := rfl
  have lifetime : letteredPin.maxChallengeLifetimeSeconds.value = 600 := rfl
  have timely : ¬(¬IsTrustedTime 150 ∨ (200 : Int) ≤ 150) := not_or.mpr ⟨not_not.mpr trusted, by decide⟩
  have destination : sameUrl shoutedChallenge.destination letteredPin.destination = .ok true := route
  have endpoint : sameUrl shoutedChallenge.facilitatorEndpoint letteredPin.facilitatorEndpoint = .ok true := facilitator
  have recipient : shoutedChallenge.recipient.lowered = letteredPin.recipient.lowered :=
    shouted_lowered.2.trans shouted_lowered.1.symm
  refine refuseIf_bind_eq_ok.mpr ⟨not_not.mpr rfl, refuseIf_bind_eq_ok.mpr ⟨not_not.mpr rfl,
    refuseIf_bind_eq_ok.mpr ⟨not_not.mpr rfl, refuseIf_bind_eq_ok.mpr ⟨not_not.mpr rfl,
    refuseIf_bind_eq_ok.mpr ⟨not_not.mpr rfl, refuseIf_bind_eq_ok.mpr ⟨not_not.mpr recipient,
    refuseIf_bind_eq_ok.mpr ⟨not_not.mpr rfl, bind_eq_ok.mpr ⟨true, destination,
    refuseIf_bind_eq_ok.mpr ⟨Bool.true_eq_false_eq_False, bind_eq_ok.mpr ⟨true, endpoint,
    refuseIf_bind_eq_ok.mpr ⟨Bool.true_eq_false_eq_False, refuseIf_bind_eq_ok.mpr ⟨timely, ?_⟩⟩⟩⟩⟩⟩⟩⟩⟩⟩⟩⟩
  rw [expires, issued, lifetime]
  exact refuseIf_bind_eq_ok.mpr ⟨by decide, refuseIf_eq_ok.mpr (by decide)⟩

theorem shoutedDigest : (challengeUnsignedDigest shoutedChallenge).text = shoutedChallenge.challengeDigest.text := by
  simp only [challengeUnsignedDigest, canonicalSha256Hex, Sha256.sha256Hex, if_true]
  rfl

theorem validateChallenge_shouted :
    validateChallenge shoutedChallenge letteredPin 150 = .ok shoutedChallenge.trimmed.normalized := by
  have trimmed : shoutedChallenge = shoutedChallenge.trimmed := (parsed_eq_ok.mp shoutedChallenge_parse).2.2
  rw [validateChallenge_eq_ok, ← trimmed]
  exact ⟨shoutedChallenge_parse, ⟨letteredPin, 1500, validatePaymentPin_lettered, parseAtomic_sample _,
    assertChallengeTerms_shouted⟩, shoutedDigest, rfl⟩

theorem shoutedChallenge_spelling : ¬shoutedChallenge.SpelledNormally := by
  rintro ⟨_, recipient, _⟩
  have texts : letteredPin.recipient.text = shoutedChallenge.recipient.text := congrArg (·.text) (shouted_lowered.2.symm.trans recipient)
  exact absurd texts (by decide)

theorem shoutedChallenge_digest : ¬SameDigest shoutedChallenge := by
  have trimmed : shoutedChallenge = shoutedChallenge.trimmed := (parsed_eq_ok.mp shoutedChallenge_parse).2.2
  rw [SameDigest, ← trimmed]
  intro same
  have other : canonicalizeJson (.obj shoutedChallenge.normalized.unsignedFields) ≠
      canonicalizeJson (.obj shoutedChallenge.unsignedFields) := by
    rw [trimmed]
    exact fun texts => shoutedChallenge_spelling (PaymentChallenge.spelledNormally_of_text texts)
  have second : (challengeUnsignedDigest shoutedChallenge.normalized).text =
      "a26a0c276559c7b56de278d817f76ae83a45ba28bd92e42791eea541121d157f" := by
    simp only [challengeUnsignedDigest, canonicalSha256Hex, Sha256.sha256Hex, if_neg other]
  rw [same, shoutedDigest] at second
  exact absurd second (by decide)

/-- A challenge with upper-case letters in its recipient is accepted, what is returned of it is refused. -/
theorem validateChallenge_unstable :
    validateChallenge shoutedChallenge letteredPin 150 = .ok shoutedChallenge.trimmed.normalized ∧
      validateChallenge shoutedChallenge.trimmed.normalized letteredPin 150 ≠ .ok shoutedChallenge.trimmed.normalized := by
  refine ⟨validateChallenge_shouted, fun again => ?_⟩
  exact shoutedChallenge_digest ((validateChallenge_again plainUrls_idempotent validateChallenge_shouted).mp again)

theorem validateChallenge_stable_iff_shouted :
    (validateChallenge shoutedChallenge.trimmed.normalized letteredPin 150 = .ok shoutedChallenge.trimmed.normalized ∧
      CreateAccepts shoutedChallenge letteredPin 150) ↔ shoutedChallenge.SpelledNormally ∨ shoutedChallenge.Collides :=
  validateChallenge_stable_iff plainUrls_idempotent validateChallenge_shouted

end

end Bnbera.Payments
