import Bnbera.Jobs.Rendering
import Bnbera.Payments.Types

namespace Bnbera.Payments

theorem PaymentRail.text_injective : ∀ a b : PaymentRail, a.text = b.text → a = b := by
  intro a b _
  cases a
  cases b
  rfl

theorem PaymentMethod.text_injective : ∀ a b : PaymentMethod, a.text = b.text → a = b := by
  intro a b same
  cases a <;> cases b <;> first
    | rfl
    | exact absurd same (by decide)

theorem PaymentAttemptStatus.text_injective : ∀ a b : PaymentAttemptStatus, a.text = b.text → a = b := by
  intro a b same
  cases a <;> cases b <;> first
    | rfl
    | exact absurd same (by decide)

theorem PaymentReceiptStatus.text_injective : ∀ a b : PaymentReceiptStatus, a.text = b.text → a = b := by
  intro a b same
  cases a <;> cases b <;> first
    | rfl
    | exact absurd same (by decide)

theorem renders_bool : Renders Json.bool := by
  refine ⟨fun _ => rfl, fun a b same => ?_⟩
  cases a <;> cases b <;> first
    | rfl
    | exact absurd same (by decide)

theorem renders_pin : Renders PaymentPin.json := by
  refine renders_obj (fun pin => ?_) (fun a b same => ?_)
  · simp [Json.wellFormed, wellFormedFields, renders_chainId.1]
  · have request := renders_str.2 _ _ (Option.some.inj (same "requestId"))
    have version := (renders_whole (by decide)).2 _ _ (Option.some.inj (same "configurationVersion"))
    have digest := renders_text.2 _ _ (Option.some.inj (same "configurationDigest"))
    have rail := PaymentRail.text_injective a.rail b.rail (renders_str.2 _ _ (Option.some.inj (same "rail")))
    have network := renders_chainId.2 _ _ (Option.some.inj (same "settlementNetwork"))
    have asset := renders_text.2 _ _ (Option.some.inj (same "settlementAsset"))
    have decimals := (renders_whole (by decide)).2 _ _ (Option.some.inj (same "settlementDecimals"))
    have amount := renders_text.2 _ _ (Option.some.inj (same "amountAtomic"))
    have recipient := renders_text.2 _ _ (Option.some.inj (same "recipient"))
    have method := PaymentMethod.text_injective a.method b.method (renders_str.2 _ _ (Option.some.inj (same "method")))
    have destination := renders_str.2 _ _ (Option.some.inj (same "destination"))
    have facilitator := renders_str.2 _ _ (Option.some.inj (same "facilitatorEndpoint"))
    have egress := renders_str.2 _ _ (Option.some.inj (same "fixedEgressProfile"))
    have payout := renders_text.2 _ _ (Option.some.inj (same "payoutAddress"))
    have lifetime := (renders_whole (by decide)).2 _ _ (Option.some.inj (same "maxChallengeLifetimeSeconds"))
    cases a
    cases b
    simp_all only

theorem renders_challenge : Renders PaymentChallenge.json := by
  refine renders_obj (fun challenge => ?_) (fun a b same => ?_)
  · simp [PaymentChallenge.unsignedFields, Json.wellFormed, wellFormedFields, renders_chainId.1]
  · have digest := renders_text.2 _ _ (Option.some.inj (same "challengeDigest"))
    have id := renders_str.2 _ _ (Option.some.inj (same "challengeId"))
    have rail := PaymentRail.text_injective a.rail b.rail (renders_str.2 _ _ (Option.some.inj (same "rail")))
    have version := renders_str.2 _ _ (Option.some.inj (same "version"))
    have network := renders_chainId.2 _ _ (Option.some.inj (same "settlementNetwork"))
    have asset := renders_text.2 _ _ (Option.some.inj (same "settlementAsset"))
    have decimals := (renders_whole (by decide)).2 _ _ (Option.some.inj (same "settlementDecimals"))
    have amount := renders_text.2 _ _ (Option.some.inj (same "amountAtomic"))
    have recipient := renders_text.2 _ _ (Option.some.inj (same "recipient"))
    have method := PaymentMethod.text_injective a.method b.method (renders_str.2 _ _ (Option.some.inj (same "method")))
    have destination := renders_str.2 _ _ (Option.some.inj (same "destination"))
    have facilitator := renders_str.2 _ _ (Option.some.inj (same "facilitatorEndpoint"))
    have nonce := renders_str.2 _ _ (Option.some.inj (same "nonce"))
    have issued := (renders_whole (by decide)).2 _ _ (Option.some.inj (same "issuedAtUnix"))
    have expires := (renders_whole (by decide)).2 _ _ (Option.some.inj (same "expiresAtUnix"))
    cases a
    cases b
    simp_all only

/-- Two receipts with one canonical text are the same receipt. -/
theorem renders_receipt : Renders PaymentReceipt.json := by
  have address : Renders (Json.ofOption (@Json.text isAddress)) := renders_text.ofOption fun _ => Nat.succ_ne_zero _
  have hash : Renders (Json.ofOption (@Json.text isTransactionHash)) := renders_text.ofOption fun _ => Nat.succ_ne_zero _
  have content : Renders (Json.ofOption (@Json.text isDigest)) := renders_text.ofOption fun _ => Nat.succ_ne_zero _
  have text : Renders (Json.ofOption Json.str) := renders_str.ofOption fun _ => Nat.succ_ne_zero _
  have code : Renders (Json.ofOption (@Json.whole 100 599)) := (renders_whole (by decide)).ofOption fun _ => Nat.succ_ne_zero _
  have time : Renders (Json.ofOption (@Json.whole 1 maxSafeInteger)) :=
    (renders_whole (by decide)).ofOption fun _ => Nat.succ_ne_zero _
  refine renders_obj (fun receipt => ?_) (fun a b same => ?_)
  · simp [Json.wellFormed, wellFormedFields, renders_chainId.1, address.1, hash.1, content.1, text.1, code.1, time.1]
  · have id := renders_text.2 _ _ (Option.some.inj (same "receiptId"))
    have attempt := renders_text.2 _ _ (Option.some.inj (same "attemptId"))
    have challenge := renders_str.2 _ _ (Option.some.inj (same "challengeId"))
    have rail := PaymentRail.text_injective a.rail b.rail (renders_str.2 _ _ (Option.some.inj (same "rail")))
    have status := PaymentReceiptStatus.text_injective a.status b.status
      (renders_str.2 _ _ (Option.some.inj (same "status")))
    have network := renders_chainId.2 _ _ (Option.some.inj (same "settlementNetwork"))
    have asset := renders_text.2 _ _ (Option.some.inj (same "settlementAsset"))
    have decimals := (renders_whole (by decide)).2 _ _ (Option.some.inj (same "settlementDecimals"))
    have amount := renders_text.2 _ _ (Option.some.inj (same "amountAtomic"))
    have expected := renders_text.2 _ _ (Option.some.inj (same "expectedRecipient"))
    have actual := address.2 _ _ (Option.some.inj (same "actualRecipient"))
    have method := PaymentMethod.text_injective a.method b.method (renders_str.2 _ _ (Option.some.inj (same "method")))
    have destination := renders_str.2 _ _ (Option.some.inj (same "destination"))
    have payment := hash.2 _ _ (Option.some.inj (same "paymentTransactionHash"))
    have settlement := hash.2 _ _ (Option.some.inj (same "settlementTransactionHash"))
    have payout := address.2 _ _ (Option.some.inj (same "payoutAddress"))
    have verified := renders_bool.2 _ _ (Option.some.inj (same "payoutVerified"))
    have reference := text.2 _ _ (Option.some.inj (same "facilitatorRequestReference"))
    have response := code.2 _ _ (Option.some.inj (same "responseStatus"))
    have body := content.2 _ _ (Option.some.inj (same "responseDigest"))
    have observed := (renders_whole (by decide)).2 _ _ (Option.some.inj (same "observedAtUnix"))
    have settled := time.2 _ _ (Option.some.inj (same "settledAtUnix"))
    cases a
    cases b
    simp_all only

/-- Two attempts with one canonical text are the same attempt. -/
theorem renders_attempt : Renders PaymentAttempt.json := by
  have address : Renders (Json.ofOption (@Json.text isAddress)) := renders_text.ofOption fun _ => Nat.succ_ne_zero _
  have content : Renders (Json.ofOption (@Json.text isDigest)) := renders_text.ofOption fun _ => Nat.succ_ne_zero _
  have text : Renders (Json.ofOption Json.str) := renders_str.ofOption fun _ => Nat.succ_ne_zero _
  refine renders_obj (fun attempt => ?_) (fun a b same => ?_)
  · simp [PaymentAttempt.requestFields, Json.wellFormed, wellFormedFields, renders_challenge.1, renders_pin.1, address.1,
      content.1, text.1]
  · have created := (renders_whole (by decide)).2 _ _ (Option.some.inj (same "createdAtUnix"))
    have updated := (renders_whole (by decide)).2 _ _ (Option.some.inj (same "updatedAtUnix"))
    have id := renders_text.2 _ _ (Option.some.inj (same "attemptId"))
    have rail := PaymentRail.text_injective a.rail b.rail (renders_str.2 _ _ (Option.some.inj (same "rail")))
    have request := renders_str.2 _ _ (Option.some.inj (same "requestId"))
    have key := renders_str.2 _ _ (Option.some.inj (same "idempotencyKey"))
    have challenge := renders_challenge.2 _ _ (Option.some.inj (same "challenge"))
    have challengeDigest := renders_text.2 _ _ (Option.some.inj (same "challengeDigest"))
    have authorization := content.2 _ _ (Option.some.inj (same "authorizationDigest"))
    have payer := address.2 _ _ (Option.some.inj (same "payerAddress"))
    have pin := renders_pin.2 _ _ (Option.some.inj (same "pin"))
    have pinDigest := renders_text.2 _ _ (Option.some.inj (same "pinDigest"))
    have status := PaymentAttemptStatus.text_injective a.status b.status
      (renders_str.2 _ _ (Option.some.inj (same "status")))
    have relay := content.2 _ _ (Option.some.inj (same "relayRequestDigest"))
    have failure := text.2 _ _ (Option.some.inj (same "failureCode"))
    have sanitized := text.2 _ _ (Option.some.inj (same "sanitizedFailure"))
    cases a
    cases b
    simp_all only

end Bnbera.Payments
