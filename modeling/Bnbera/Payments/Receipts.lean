import Bnbera.Payments.Creation
import Bnbera.Payments.Rendering

namespace Bnbera.Payments

open Interleaving

section
variable [UrlParser] [Sha256] {repository : PaymentRepository} {memory after : PaymentMemory} {s : PaymentProcess}
  {trusted stored : PaymentReceipt}

/-- The two maps that find the attempt of a receipt are the inverses of the stored receipts. -/
structure ReceiptsIndexed (memory : PaymentMemory) : Prop where
  ids : memory.receiptIds.IsIndex memory.receipts (·.receiptId)
  digests : memory.receiptDigests.IsIndex memory.receipts receiptDigest

def SameReceipts (before after : PaymentMemory) : Prop :=
  after.receipts = before.receipts ∧ after.receiptIds = before.receiptIds ∧ after.receiptDigests = before.receiptDigests

omit [UrlParser] in
theorem SameReceipts.indexed (same : SameReceipts memory after) (indexed : ReceiptsIndexed memory) :
    ReceiptsIndexed after := by
  obtain ⟨receipts, ids, digests⟩ := same
  refine ⟨?_, ?_⟩
  · rw [receipts, ids]
    exact indexed.ids
  · rw [receipts, digests]
    exact indexed.digests

omit [UrlParser] in
theorem receiptsIndexed_empty : ReceiptsIndexed PaymentMemory.empty :=
  ⟨OrderedMap.isIndex_empty, OrderedMap.isIndex_empty⟩

omit [UrlParser] [Sha256] in
theorem challenged_sameReceipts (memory : PaymentMemory) (input : PaymentCommit) : SameReceipts memory (memory.challenged input) := by
  unfold PaymentMemory.challenged
  cases input.challenge with
  | none => exact ⟨rfl, rfl, rfl⟩
  | some challenge => exact ⟨rfl, rfl, rfl⟩

def ReceiptFree (memory : PaymentMemory) (trusted : PaymentReceipt) : Prop :=
  (∀ owner, memory.receiptIds.get trusted.receiptId = some owner → owner = trusted.attemptId) ∧
    ∀ owner, memory.receiptDigests.get (receiptDigest trusted) = some owner → owner = trusted.attemptId

def ReplacesFree (memory : PaymentMemory) (receipt : PaymentReceipt) (attempt : PaymentAttempt) : Prop :=
  ∀ trusted prior, ReceiptTrusted receipt attempt trusted → memory.receipts.get trusted.attemptId = some prior →
    prior.YieldsTo trusted → ReceiptFree memory trusted

omit [UrlParser] in
theorem ReceiptApplied.indexed (applied : ReceiptApplied memory trusted stored after) (indexed : ReceiptsIndexed memory)
    (free : ∀ prior, memory.receipts.get trusted.attemptId = some prior → prior.YieldsTo trusted →
      ReceiptFree memory trusted) : ReceiptsIndexed after := by
  cases applied with
  | replayed => exact indexed
  | replaced found _ yields =>
    have mine := free _ found yields
    exact ⟨indexed.ids.set_replaced found mine.1, indexed.digests.set_replaced found mine.2⟩
  | fresh absent idFree digestFree => exact ⟨indexed.ids.set_fresh absent idFree, indexed.digests.set_fresh absent digestFree⟩

/-- Whenever a settled receipt takes the place of an ambiguous one, no other attempt has its
identifier or its digest on record. -/
def ReplacementRuns (moment : Moment PaymentCall PaymentOp PaymentResult) (s : PaymentProcess) : Prop :=
  match moment with
  | .acted _ (.commit input) => ∀ receipt ∈ input.receipt, ReplacesFree s.maps receipt input.attempt
  | .acted _ (.saveReceipt receipt) =>
    ∀ attempt ∈ s.maps.attempts.get receipt.attemptId, ReplacesFree s.maps receipt attempt
  | _ => True

def FirstReceipts (moment : Moment PaymentCall PaymentOp PaymentResult) (s : PaymentProcess) : Prop :=
  match moment with
  | .called (.transaction _) => False
  | .acted _ (.commit input) => input.receipt = none
  | .acted _ (.saveReceipt receipt) => s.maps.receipts.get receipt.attemptId = none
  | _ => True

theorem FirstReceipts.replacementRuns {moment : Moment PaymentCall PaymentOp PaymentResult} {now : PaymentProcess}
    (first : FirstReceipts moment now) : ReplacementRuns moment now := by
  cases moment with
  | called => exact trivial
  | entered => exact trivial
  | left => exact trivial
  | acted call op =>
    cases op with
    | commit input =>
      intro receipt given
      have none : input.receipt = none := first
      rw [none] at given
      cases given
    | saveReceipt receipt =>
      intro attempt _ trusted prior valid stored
      have absent : now.maps.receipts.get receipt.attemptId = none := first
      rw [ReceiptTrusted.attemptId valid, absent] at stored
      cases stored

theorem Answers.sameReceipts {call : PaymentCall} {result : PaymentResult}
    (answered : repository.Answers call memory result after) : SameReceipts memory after := by
  cases answered with
  | refused => exact ⟨rfl, rfl, rfl⟩
  | replayed => exact ⟨rfl, rfl, rfl⟩
  | unread => exact ⟨rfl, rfl, rfl⟩
  | challenged saved =>
    obtain ⟨_, _, rest⟩ := bind_eq_ok.mp saved
    obtain ⟨_, _, rest⟩ := bind_eq_ok.mp rest
    split at rest
    · obtain ⟨_, rest⟩ := refuseIf_bind_eq_ok.mp rest
      cases Except.ok.inj rest
      exact ⟨rfl, rfl, rfl⟩
    · obtain ⟨_, rest⟩ := refuseIf_bind_eq_ok.mp rest
      cases Except.ok.inj rest
      exact ⟨rfl, rfl, rfl⟩
  | notChallenged => exact ⟨rfl, rfl, rfl⟩
  | enqueued => exact ⟨rfl, rfl, rfl⟩
  | notEnqueued => exact ⟨rfl, rfl, rfl⟩
  | updated => exact ⟨rfl, rfl, rfl⟩
  | notUpdated => exact ⟨rfl, rfl, rfl⟩

theorem CommitOutcome.indexed {input : PaymentCommit} {result : Except PaymentFailure Unit}
    (outcome : CommitOutcome repository memory input result after) (indexed : ReceiptsIndexed memory)
    (free : ∀ receipt ∈ input.receipt, ReplacesFree memory receipt input.attempt) : ReceiptsIndexed after := by
  have same := challenged_sameReceipts memory input
  cases outcome with
  | refused => exact indexed
  | unrecorded => exact same.indexed indexed
  | plain =>
    have kept := same.indexed indexed
    exact ⟨kept.ids, kept.digests⟩
  | settled _ given valid applied =>
    have kept := applied.indexed (same.indexed indexed) fun prior found yields => by
      rw [same.1] at found
      have mine := free _ given _ prior valid found yields
      unfold ReceiptFree
      rw [same.2.1, same.2.2]
      exact mine
    exact ⟨kept.ids, kept.digests⟩

/-- In every run whose replacements are free the index is exact, so no two stored receipts
share an identifier or a digest. -/
theorem Reach.receipts_indexed (reach : repository.service.Reach ReplacementRuns (· = .empty) s) :
    ReceiptsIndexed s.maps ∧ ∀ attemptId other receipt otherReceipt,
      s.maps.receipts.get attemptId = some receipt → s.maps.receipts.get other = some otherReceipt →
      receipt.receiptId = otherReceipt.receiptId ∨ receiptDigest receipt = receiptDigest otherReceipt →
      attemptId = other := by
  have indexed : ReceiptsIndexed s.maps := by
    refine (@Serialized.Reach.invariant _ _ _ _ _ _ _ _ _ ReceiptsIndexed reach ?_ ?_ ?_).1
    · rintro _ rfl
      exact receiptsIndexed_empty
    · intro s call result maps _ answered indexed
      exact (Answers.sameReceipts answered).indexed indexed
    · intro s call op answer maps permitted executed indexed
      cases executed with
      | commit => exact CommitOutcome.indexed commit_outcome indexed permitted
      | saved saved =>
        rename_i receipt stored replayed
        unfold PaymentMemory.saveReceipt at saved
        split at saved
        · cases saved
        · rename_i attempt found
          obtain ⟨trusted, valid, applied⟩ := applyReceipt_eq_ok saved
          exact applied.indexed indexed fun prior stored yields =>
            permitted attempt found trusted prior valid stored yields
      | notSaved => exact indexed
  refine ⟨indexed, fun attemptId other receipt otherReceipt first second same => ?_⟩
  rcases same with id | digest
  · exact indexed.ids.injective first second id
  · exact indexed.digests.injective first second digest

variable {receipt : PaymentReceipt} {attempt : PaymentAttempt} {attemptId : Uuid}

theorem applyReceipt_first (read : receipt.parse = .ok receipt)
    (valid : validateReceipt receipt attempt.pin attempt.attemptId attempt.challenge.challengeId = .ok receipt)
    (absent : memory.receipts.get receipt.attemptId = none) (free : ReceiptFree memory receipt) :
    memory.applyReceipt receipt attempt = .ok (receipt, false, memory.withReceipt receipt) := by
  have challenge : attempt.challenge.challengeId = receipt.challengeId := (validateReceipt_eq_ok valid).2.challenge.symm
  refine bind_eq_ok.mpr ⟨_, read, refuseIf_bind_eq_ok.mpr ⟨not_not.mpr challenge, bind_eq_ok.mpr ⟨_, valid, ?_⟩⟩⟩
  simp only [absent]
  exact refuseIf_bind_eq_ok.mpr ⟨(any_ne_eq_false (f := id)).mpr free.1,
    refuseIf_bind_eq_ok.mpr ⟨(any_ne_eq_false (f := id)).mpr free.2, rfl⟩⟩

theorem saveReceipt_first (read : receipt.parse = .ok receipt) (known : memory.attempts.get receipt.attemptId = some attempt)
    (valid : validateReceipt receipt attempt.pin attempt.attemptId attempt.challenge.challengeId = .ok receipt)
    (absent : memory.receipts.get receipt.attemptId = none) (free : ReceiptFree memory receipt) :
    memory.saveReceipt receipt = .ok (receipt, false, memory.withReceipt receipt) := by
  simp only [PaymentMemory.saveReceipt, known]
  exact applyReceipt_first read valid absent free

end

theorem amount_ok : isPositiveDecimal "1500" = true := by decide +kernel

theorem observed_low : (1 : Int) ≤ 120 := by decide

theorem observed_high : 120 ≤ maxSafeInteger := by decide

section
attribute [local instance] plainUrls
variable [Sha256] {attemptId receiptId : Uuid} {challengeId idempotencyKey : String} {receiptStatus : PaymentReceiptStatus}

omit [Sha256] in
theorem sampleHash_ok : isTransactionHash ("0x" ++ String.ofList (List.replicate 64 'a')) = true := by decide +kernel

/-- A receipt of the whole amount. -/
def sampleReceipt (receiptId attemptId : Uuid) (challengeId : String) (status : PaymentReceiptStatus) : PaymentReceipt where
  receiptId := receiptId
  attemptId := attemptId
  challengeId := challengeId
  rail := .x402B402
  status := status
  settlementNetwork := .testnet
  settlementAsset := sampleConfiguration.settlementAsset
  settlementDecimals := sampleConfiguration.settlementDecimals
  amountAtomic := ⟨_, amount_ok⟩
  expectedRecipient := sampleConfiguration.payoutAddress
  actualRecipient := some sampleConfiguration.payoutAddress
  method := .eip3009
  destination := sampleRoute
  paymentTransactionHash := some ⟨_, sampleHash_ok⟩
  settlementTransactionHash := none
  payoutAddress := some sampleConfiguration.payoutAddress
  payoutVerified := true
  facilitatorRequestReference := none
  responseStatus := none
  responseDigest := none
  observedAtUnix := ⟨120, observed_low, observed_high⟩
  settledAtUnix := some ⟨120, observed_low, observed_high⟩

omit [Sha256] in
theorem sampleReceipt_trimmed (plain : PlainIdentifier challengeId) :
    (sampleReceipt receiptId attemptId challengeId receiptStatus).trimmed =
      sampleReceipt receiptId attemptId challengeId receiptStatus := by
  simp only [PaymentReceipt.trimmed, sampleReceipt, plain.trimmed, Option.map_none]

omit [Sha256] in
theorem sampleReceipt_normalized : (sampleReceipt receiptId attemptId challengeId receiptStatus).normalized =
    sampleReceipt receiptId attemptId challengeId receiptStatus := by
  obtain ⟨asset, payout⟩ := sampleConfiguration_lowered
  have route := parse_route.2.2.1
  simp only [PaymentReceipt.normalized, sampleReceipt, asset, payout, route, Option.map_some]

omit [Sha256] in
theorem sampleReceipt_parse (plain : PlainIdentifier challengeId) :
    (sampleReceipt receiptId attemptId challengeId receiptStatus).parse =
      .ok (sampleReceipt receiptId attemptId challengeId receiptStatus) := by
  refine parsed_eq_ok.mpr ⟨?_, ?_, (sampleReceipt_trimmed plain).symm⟩
  · intro url member
    cases List.mem_singleton.mp member
    exact parse_route.1
  · have challenge := plain.issues ["challengeId"]
    have route : urlIssues ["destination"] sampleRoute = [] := if_pos parse_route.2.2.2.2.1
    rw [sampleReceipt_trimmed plain]
    simp only [sampleReceipt, challenge, route, Option.map_none, Option.getD_none, List.append_nil]

/-- The sample receipt is the receipt of its attempt and its challenge. -/
theorem validateReceipt_sample (plain : PlainIdentifier challengeId) :
    validateReceipt (sampleReceipt receiptId attemptId challengeId receiptStatus) samplePin attemptId challengeId =
      .ok (sampleReceipt receiptId attemptId challengeId receiptStatus) := by
  obtain ⟨_, _, _, _, _, _, destination, _⟩ := parse_route
  have attempt : (sampleReceipt receiptId attemptId challengeId receiptStatus).attemptId = attemptId := rfl
  have challenge : (sampleReceipt receiptId attemptId challengeId receiptStatus).challengeId = challengeId := rfl
  have rail : (sampleReceipt receiptId attemptId challengeId receiptStatus).rail = samplePin.rail := rfl
  have network : (sampleReceipt receiptId attemptId challengeId receiptStatus).settlementNetwork =
    samplePin.settlementNetwork := rfl
  have asset : (sampleReceipt receiptId attemptId challengeId receiptStatus).settlementAsset = samplePin.settlementAsset := rfl
  have decimals : (sampleReceipt receiptId attemptId challengeId receiptStatus).settlementDecimals =
    samplePin.settlementDecimals := rfl
  have amount : (sampleReceipt receiptId attemptId challengeId receiptStatus).amountAtomic = samplePin.amountAtomic := rfl
  have expected : (sampleReceipt receiptId attemptId challengeId receiptStatus).expectedRecipient = samplePin.recipient := rfl
  have actual : (sampleReceipt receiptId attemptId challengeId receiptStatus).actualRecipient = some samplePin.recipient := rfl
  have method : (sampleReceipt receiptId attemptId challengeId receiptStatus).method = samplePin.method := rfl
  have routed : sameUrl (sampleReceipt receiptId attemptId challengeId receiptStatus).destination samplePin.destination =
    .ok true := destination
  have verified : (sampleReceipt receiptId attemptId challengeId receiptStatus).payoutVerified = true := rfl
  have payout : (sampleReceipt receiptId attemptId challengeId receiptStatus).payoutAddress = some samplePin.payoutAddress := rfl
  have settled : (sampleReceipt receiptId attemptId challengeId receiptStatus).settledAtUnix ≠ none := fun none => nomatch none
  have paid : (sampleReceipt receiptId attemptId challengeId receiptStatus).paymentTransactionHash ≠ none :=
    fun none => nomatch none
  have evidence : assertSettledEvidence (sampleReceipt receiptId attemptId challengeId receiptStatus) samplePin = .ok () := by
    simp only [assertSettledEvidence, bind_eq_ok, refuseIf_eq_ok, verified, actual, payout, settled, paid, Option.map_some,
      exists_const, ne_eq, not_true_eq_false, Bool.true_eq_false, reduceCtorEq, false_and, or_self, not_false_eq_true,
      and_self]
  refine bind_eq_ok.mpr ⟨_, safeParse_eq_ok.mpr (sampleReceipt_parse plain), bind_eq_ok.mpr ⟨_, validatePaymentPin_sample, ?_⟩⟩
  rw [attempt, challenge, rail, network, asset, decimals, amount, expected, actual, method, routed, evidence,
    sampleReceipt_normalized]
  simp only [bind_eq_ok, refuseIf_eq_ok, checkIf_eq_ok, exists_const, ne_eq, not_true_eq_false, or_self, not_false_eq_true,
    Option.any_some, decide_not, decide_true, Bool.not_true, Bool.false_eq_true, if_false, Except.ok.injEq, exists_eq_left',
    Bool.true_eq_false, true_and, implies_true]
  rfl

variable {memory : PaymentMemory}

theorem saveReceipt_replaces {prior : PaymentReceipt} (receiptId : Uuid) (plain : PlainIdentifier challengeId)
    (known : memory.attempts.get attemptId = some (newAttempt attemptId idempotencyKey challengeId))
    (stored : memory.receipts.get attemptId = some prior) (ambiguous : prior.status = .unknown)
    (apart : receiptDigest prior ≠ receiptDigest (sampleReceipt receiptId attemptId challengeId .settled)) :
    memory.saveReceipt (sampleReceipt receiptId attemptId challengeId .settled) =
      .ok (sampleReceipt receiptId attemptId challengeId .settled, false, { memory with
        receiptIds := memory.receiptIds.delete prior.receiptId
        receiptDigests := memory.receiptDigests.delete (receiptDigest prior) : PaymentMemory }.withReceipt
          (sampleReceipt receiptId attemptId challengeId .settled)) := by
  have owner : memory.attempts.get (sampleReceipt receiptId attemptId challengeId .settled).attemptId =
    some (newAttempt attemptId idempotencyKey challengeId) := known
  have found : memory.receipts.get (sampleReceipt receiptId attemptId challengeId .settled).attemptId = some prior := stored
  have yields : prior.YieldsTo (sampleReceipt receiptId attemptId challengeId .settled) := ⟨.inl ambiguous, rfl⟩
  simp only [PaymentMemory.saveReceipt, owner]
  refine bind_eq_ok.mpr ⟨_, sampleReceipt_parse plain, refuseIf_bind_eq_ok.mpr ⟨not_not.mpr rfl, ?_⟩⟩
  refine bind_eq_ok.mpr ⟨_, validateReceipt_sample plain, ?_⟩
  simp only [found, if_neg apart, if_pos yields]
  rfl

end

def firstReceiptId : Uuid := ⟨_, firstUuid_ok⟩

def secondReceiptId : Uuid := ⟨"00000000-0000-4000-8000-000000000002", by decide +kernel⟩

def firstDigest : Digest := ⟨"aaaaaaaaaaaaaaaaaaaaaaaaaaaaaaaaaaaaaaaaaaaaaaaaaaaaaaaaaaaaaaaa", by decide +kernel, by decide +kernel⟩

def secondDigest : Digest := ⟨"bbbbbbbbbbbbbbbbbbbbbbbbbbbbbbbbbbbbbbbbbbbbbbbbbbbbbbbbbbbbbbbb", by decide +kernel, by decide +kernel⟩

def otherDigest : Digest := ⟨"cccccccccccccccccccccccccccccccccccccccccccccccccccccccccccccccc", by decide +kernel, by decide +kernel⟩

def firstTerms : Json := .obj (@sampleTerms plainUrls nullSha256 "challenge-1").unsignedFields

def ambiguousReceipt : PaymentReceipt := sampleReceipt firstReceiptId buyerAttemptId "challenge-1" .unknown

/-- A platform hash that is right on three kinds of texts: the first terms, the ambiguous receipt, any other. -/
@[reducible] def labelSha256 : Sha256 where
  sha256Hex text :=
    if text = canonicalizeJson firstTerms then firstDigest
    else if text = canonicalizeJson ambiguousReceipt.json then secondDigest else otherDigest

section
attribute [local instance] plainUrls labelSha256

theorem sampleTerms_unsigned (challengeId : String) : (sampleTerms challengeId).unsignedFields =
    (@sampleTerms plainUrls nullSha256 challengeId).unsignedFields := rfl

theorem sampleTerms_apart : challengeUnsignedDigest (sampleTerms "challenge-1") ≠
    challengeUnsignedDigest (sampleTerms "challenge-2") := by
  have wellFormed (challengeId : String) : (Json.obj (sampleTerms challengeId).unsignedFields).wellFormed = true := by
    simp [PaymentChallenge.unsignedFields, Json.wellFormed, wellFormedFields, renders_chainId.1]
  have apart : canonicalizeJson (.obj (sampleTerms "challenge-2").unsignedFields) ≠ canonicalizeJson firstTerms := by
    intro same
    have field := canonicalizeJson_field (wellFormed "challenge-2") (wellFormed "challenge-1") same "challengeId"
    have id := renders_str.2 _ _ (Option.some.inj field)
    exact absurd id (by decide)
  have text : canonicalizeJson (.obj (sampleTerms "challenge-1").unsignedFields) = canonicalizeJson firstTerms :=
    congrArg (fun fields => canonicalizeJson (.obj fields)) (sampleTerms_unsigned _)
  have first : challengeUnsignedDigest (sampleTerms "challenge-1") = firstDigest := by
    unfold challengeUnsignedDigest canonicalSha256Hex
    simp only [Sha256.sha256Hex, if_pos text]
  have second : challengeUnsignedDigest (sampleTerms "challenge-2") ≠ firstDigest := by
    intro same
    unfold challengeUnsignedDigest canonicalSha256Hex at same
    simp only [Sha256.sha256Hex, if_neg apart] at same
    split at same
    · exact absurd (congrArg (·.text) same) (by decide)
    · exact absurd (congrArg (·.text) same) (by decide)
  rw [first]
  exact fun same => second same.symm

theorem receiptDigest_apart {receipt : PaymentReceipt} (other : receipt ≠ ambiguousReceipt) :
    receiptDigest ambiguousReceipt ≠ receiptDigest receipt := by
  have text : canonicalizeJson receipt.json ≠ canonicalizeJson ambiguousReceipt.json :=
    fun same => other (renders_receipt.2 _ _ same)
  have terms (receipt : PaymentReceipt) : canonicalizeJson receipt.json ≠ canonicalizeJson firstTerms := by
    intro same
    have wellFormed : firstTerms.wellFormed = true := by
      simp [firstTerms, PaymentChallenge.unsignedFields, Json.wellFormed, wellFormedFields, renders_chainId.1]
    have field := canonicalizeJson_field (renders_receipt.1 receipt) wellFormed same "receiptId"
    cases field
  have first : receiptDigest ambiguousReceipt = secondDigest := by
    unfold receiptDigest canonicalSha256Hex
    simp only [Sha256.sha256Hex, if_neg (terms _), if_true]
  have second : receiptDigest receipt = otherDigest := by
    unfold receiptDigest canonicalSha256Hex
    simp only [Sha256.sha256Hex, if_neg (terms _), if_neg text]
  rw [first, second]
  exact fun same => absurd (congrArg (·.text) same) (by decide)

variable {permits : Moment PaymentCall PaymentOp PaymentResult → PaymentProcess → Prop} {initial : PaymentMemory → Prop}
  {memory after : PaymentMemory} {returned : List (PaymentCall × PaymentResult)} {receipt stored : PaymentReceipt}
  {replayed : Bool}

theorem saveReceipt_reach (read : receipt.parse = .ok receipt)
    (saved : memory.saveReceipt receipt = .ok (stored, replayed, after))
    (permitted : ∀ moment now, FirstReceipts moment now → permits moment now)
    (acts : ∀ now, now.maps = memory → permits (.acted (.saveReceipt receipt) (.saveReceipt receipt)) now)
    (reach : sampleRepository.service.Reach permits initial ⟨memory, [], none, returned⟩) :
    ∃ returned, sampleRepository.service.Reach permits initial ⟨after, [], none, returned⟩ := by
  have joined := reach.next (permitted (.called (.saveReceipt receipt)) _ trivial)
    (.joined (.saves read))
  have passed : ¬sampleRepository.service.failed (.ok (.receipt stored replayed)) := fun ⟨_, same⟩ => (nomatch same)
  exact ⟨_, joined.served (.saved saved) rfl passed
    (fun now => permitted _ _ trivial) acts (fun now => permitted _ _ trivial)⟩

def firstCreated : PaymentMemory :=
  PaymentMemory.empty.withSample firstReceiptId buyerAttemptId "payment-1" "challenge-1" .challenged

def bothCreated : PaymentMemory := firstCreated.withSample secondReceiptId otherAttemptId "payment-2" "challenge-2" .challenged

theorem bothCreated_reach
    (permitted : ∀ moment now, FirstReceipts moment now → permits moment now) :
    ∃ returned, sampleRepository.service.Reach permits (· = .empty) ⟨bothCreated, [], none, returned⟩ := by
  have attempts : firstCreated.attempts = OrderedMap.empty.set buyerAttemptId (newAttempt buyerAttemptId "payment-1" "challenge-1") :=
    withSample_attempts
  have challenges : firstCreated.challenges = OrderedMap.empty.set "challenge-1" (sampleChallenge "challenge-1") ∧
      firstCreated.challengeDigests = OrderedMap.empty.set (sampleChallenge "challenge-1").challengeDigest "challenge-1" :=
    withSample_challenges
  have digests : (sampleChallenge "challenge-2").challengeDigest ≠ (sampleChallenge "challenge-1").challengeDigest := by
    intro same
    have text := congrArg Checked.text same
    rw [sampleChallenge_digest, sampleChallenge_digest] at text
    exact sampleTerms_apart (Normalized.ext text.symm)
  have apart : otherAttemptId ≠ buyerAttemptId := attempts_apart.symm
  have emptyRoom : RoomFor .empty buyerAttemptId "payment-1" "challenge-1" := ⟨rfl, rfl, rfl, rfl⟩
  have room : RoomFor firstCreated otherAttemptId "payment-2" "challenge-2" := by
    refine ⟨?_, ?_, ?_, ?_⟩
    · rw [attempts, OrderedMap.get_set_ne apart]
      rfl
    · exact withSample_actions (by decide)
    · exact withSample_events (by decide)
    · have unissued : firstCreated.challenges.get (sampleChallenge "challenge-2").challengeId = none := by
        have apart : (sampleChallenge "challenge-2").challengeId ≠ "challenge-1" := show "challenge-2" ≠ "challenge-1" by decide
        rw [challenges.1, OrderedMap.get_set_ne apart]
        rfl
      have unsigned : firstCreated.challengeDigests.get (sampleChallenge "challenge-2").challengeDigest = none := by
        rw [challenges.2, OrderedMap.get_set_ne digests]
        rfl
      simp only [PaymentMemory.assertChallengeFree, unissued, unsigned]
      rfl
  have single : ∀ attempt ∈ firstCreated.attempts.values, attempt.challenge.challengeId ≠ "challenge-2" := by
    intro attempt member same
    rw [attempts] at member
    obtain ⟨id, found⟩ := OrderedMap.mem_values_iff.mp member
    rw [OrderedMap.get_set] at found
    split at found
    · cases Option.some.inj found
      exact absurd same (show "challenge-1" ≠ "challenge-2" by decide)
    · cases found
  have start : sampleRepository.service.Reach permits (· = .empty) ⟨.empty, [], none, []⟩ := .start rfl
  obtain ⟨_, first⟩ := createSample_reach firstReceiptId .challenged firstKey firstChallenge emptyRoom
    (by rintro _ ⟨⟩) (fun now => permitted _ _ trivial) (fun now => permitted _ _ trivial)
    (fun call now _ => permitted _ _ rfl) (fun call result now => permitted _ _ trivial) start
  exact createSample_reach secondReceiptId .challenged secondKey secondChallenge room single (fun now => permitted _ _ trivial)
    (fun now => permitted _ _ trivial) (fun call now _ => permitted _ _ rfl)
    (fun call result now => permitted _ _ trivial) first

theorem bothCreated_attempts :
    bothCreated.attempts.get buyerAttemptId = some (newAttempt buyerAttemptId "payment-1" "challenge-1") ∧
      bothCreated.attempts.get otherAttemptId = some (newAttempt otherAttemptId "payment-2" "challenge-2") := by
  have apart : buyerAttemptId ≠ otherAttemptId := attempts_apart
  have second : bothCreated.attempts =
      firstCreated.attempts.set otherAttemptId (newAttempt otherAttemptId "payment-2" "challenge-2") := withSample_attempts
  have first : firstCreated.attempts =
      OrderedMap.empty.set buyerAttemptId (newAttempt buyerAttemptId "payment-1" "challenge-1") := withSample_attempts
  rw [second]
  refine ⟨?_, OrderedMap.get_set_self⟩
  rw [OrderedMap.get_set_ne apart, first, OrderedMap.get_set_self]

theorem bothCreated_receipts : bothCreated.receipts = .empty ∧ bothCreated.receiptIds = .empty ∧
    bothCreated.receiptDigests = .empty := by
  have second : bothCreated.receipts = firstCreated.receipts ∧ bothCreated.receiptIds = firstCreated.receiptIds ∧
      bothCreated.receiptDigests = firstCreated.receiptDigests := withSample_receipts
  have first : firstCreated.receipts = .empty ∧ firstCreated.receiptIds = .empty ∧ firstCreated.receiptDigests = .empty :=
    withSample_receipts
  exact ⟨second.1.trans first.1, second.2.1.trans first.2.1, second.2.2.trans first.2.2⟩

def otherReceipt : PaymentReceipt := sampleReceipt secondReceiptId otherAttemptId "challenge-2" .settled

def settlingReceipt : PaymentReceipt := sampleReceipt secondReceiptId buyerAttemptId "challenge-1" .settled

def twoReceipts : PaymentMemory := (bothCreated.withReceipt otherReceipt).withReceipt ambiguousReceipt

theorem twoReceipts_reach (permitted : ∀ moment now, FirstReceipts moment now → permits moment now) :
    ∃ returned, sampleRepository.service.Reach permits (· = .empty) ⟨twoReceipts, [], none, returned⟩ := by
  have ids : firstReceiptId ≠ secondReceiptId := by decide +kernel
  have attempts : buyerAttemptId ≠ otherAttemptId := attempts_apart
  obtain ⟨noReceipts, noIds, noDigests⟩ := bothCreated_receipts
  have other : otherReceipt ≠ ambiguousReceipt := fun same => ids (congrArg PaymentReceipt.receiptId same).symm
  have firstAbsent : bothCreated.receipts.get otherAttemptId = none := by rw [noReceipts, OrderedMap.get_empty]
  have secondAbsent : (bothCreated.withReceipt otherReceipt).receipts.get buyerAttemptId = none := by
    have stored : (bothCreated.withReceipt otherReceipt).receipts = bothCreated.receipts.set otherAttemptId otherReceipt := rfl
    rw [stored, OrderedMap.get_set_ne attempts, noReceipts, OrderedMap.get_empty]
  have first : bothCreated.saveReceipt otherReceipt = .ok (otherReceipt, false, bothCreated.withReceipt otherReceipt) := by
    refine saveReceipt_first (sampleReceipt_parse secondChallenge) bothCreated_attempts.2
      (validateReceipt_sample secondChallenge) firstAbsent ⟨fun owner found => ?_, fun owner found => ?_⟩
    · rw [noIds, OrderedMap.get_empty] at found
      cases found
    · rw [noDigests, OrderedMap.get_empty] at found
      cases found
  have second : (bothCreated.withReceipt otherReceipt).saveReceipt ambiguousReceipt =
      .ok (ambiguousReceipt, false, twoReceipts) := by
    refine saveReceipt_first (sampleReceipt_parse firstChallenge) bothCreated_attempts.1
      (validateReceipt_sample firstChallenge) secondAbsent ⟨fun owner found => ?_, fun owner found => ?_⟩
    · have absent : (bothCreated.receiptIds.set secondReceiptId otherAttemptId).get firstReceiptId = none := by
        rw [OrderedMap.get_set_ne ids, noIds, OrderedMap.get_empty]
      exact absurd (found.symm.trans absent) (Option.some_ne_none _)
    · have absent : (bothCreated.receiptDigests.set (receiptDigest otherReceipt) otherAttemptId).get
          (receiptDigest ambiguousReceipt) = none := by
        rw [OrderedMap.get_set_ne (receiptDigest_apart other), noDigests, OrderedMap.get_empty]
      exact absurd (found.symm.trans absent) (Option.some_ne_none _)
  have firstActs (now : PaymentProcess) (same : now.maps = bothCreated) :
      permits (.acted (.saveReceipt otherReceipt) (.saveReceipt otherReceipt)) now := by
    refine permitted _ _ ?_
    rw [← same] at firstAbsent
    exact firstAbsent
  have secondActs (now : PaymentProcess) (same : now.maps = bothCreated.withReceipt otherReceipt) :
      permits (.acted (.saveReceipt ambiguousReceipt) (.saveReceipt ambiguousReceipt)) now := by
    refine permitted _ _ ?_
    rw [← same] at secondAbsent
    exact secondAbsent
  obtain ⟨_, created⟩ := bothCreated_reach permitted
  obtain ⟨_, saved⟩ := saveReceipt_reach (sampleReceipt_parse secondChallenge) first permitted firstActs created
  exact saveReceipt_reach (sampleReceipt_parse firstChallenge) second permitted secondActs saved

/-- Two receipts were saved, one of them ambiguous, and the index is exact. -/
theorem Reach.receipts_indexed_two : ReceiptsIndexed twoReceipts := by
  obtain ⟨_, reach⟩ := @twoReceipts_reach ReplacementRuns (fun moment now first => first.replacementRuns)
  exact (Reach.receipts_indexed reach).1

/-- The receipt that settles the first attempt has the identifier under which the receipt of the
second is on record, and takes the place of the ambiguous one: one identifier for two attempts. -/
theorem Reach.receiptId_recorded_twice : ∃ s,
    sampleRepository.service.Reach (fun moment _ => ∀ work, moment ≠ .called (.transaction work)) (· = .empty) s ∧
      ¬ReceiptsIndexed s.maps ∧ ∃ attemptId other receipt otherReceipt,
        s.maps.receipts.get attemptId = some receipt ∧ s.maps.receipts.get other = some otherReceipt ∧
        receipt.receiptId = otherReceipt.receiptId ∧ attemptId ≠ other := by
  have attempts : otherAttemptId ≠ buyerAttemptId := attempts_apart.symm
  have ids : secondReceiptId ≠ firstReceiptId := by decide +kernel
  have settles : settlingReceipt ≠ ambiguousReceipt := fun same => ids (congrArg PaymentReceipt.receiptId same)
  have stored : twoReceipts.receipts.get buyerAttemptId = some ambiguousReceipt := OrderedMap.get_set_self
  have kept : twoReceipts.receipts.get otherAttemptId = some otherReceipt :=
    (OrderedMap.get_set_ne attempts).trans OrderedMap.get_set_self
  have replaced := saveReceipt_replaces secondReceiptId firstChallenge
    (show twoReceipts.attempts.get buyerAttemptId = _ from bothCreated_attempts.1) stored rfl (receiptDigest_apart settles)
  have methods (moment : Moment PaymentCall PaymentOp PaymentResult) (now : PaymentProcess)
      (first : FirstReceipts moment now) : ∀ work, moment ≠ .called (.transaction work) := by
    rintro work rfl
    exact first
  obtain ⟨_, reach⟩ := @twoReceipts_reach (fun moment _ => ∀ work, moment ≠ .called (.transaction work))
    methods
  obtain ⟨returned, settled⟩ := saveReceipt_reach (sampleReceipt_parse firstChallenge) replaced methods
    (fun now _ work same => (nomatch same)) reach
  have mine : (twoReceipts.receipts.set buyerAttemptId settlingReceipt).get buyerAttemptId = some settlingReceipt :=
    OrderedMap.get_set_self
  have theirs : (twoReceipts.receipts.set buyerAttemptId settlingReceipt).get otherAttemptId = some otherReceipt :=
    (OrderedMap.get_set_ne attempts).trans kept
  exact ⟨_, settled, fun indexed => attempts (indexed.ids.injective theirs mine rfl), _, _, _, _, mine, theirs, rfl,
    attempts.symm⟩

end

end Bnbera.Payments
