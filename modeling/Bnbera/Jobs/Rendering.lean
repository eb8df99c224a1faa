import Bnbera.Jobs.Types

namespace Bnbera

theorem renders_chainId : Renders BscChainId.json := by
  refine ⟨fun _ => Json.nat_wellFormed _, fun a b same => ?_⟩
  have numbers := canonicalizeJson_nat same
  cases a <;> cases b <;> first
    | rfl
    | cases numbers

theorem JobState.text_injective : ∀ a b : JobState, a.text = b.text → a = b := by
  intro a b same
  cases a <;> cases b <;> first
    | rfl
    | exact absurd same (by decide)

theorem renders_jobKey : Renders JobKey.json := by
  refine renders_obj (fun key => ?_) (fun a b same => ?_)
  · simp [Json.wellFormed, wellFormedFields, renders_chainId.1]
  · have chainId := renders_chainId.2 _ _ (Option.some.inj (same "chainId"))
    have contract := renders_text.2 _ _ (Option.some.inj (same "commerceContract"))
    have jobId := renders_text.2 _ _ (Option.some.inj (same "jobId"))
    cases a
    cases b
    cases chainId
    cases contract
    cases jobId
    rfl

theorem renders_deploymentPin : Renders EnabledDeploymentPin.json := by
  refine renders_obj (fun pin => ?_) (fun a b same => ?_)
  · simp [Json.wellFormed, wellFormedFields, renders_chainId.1]
  · have chainId := renders_chainId.2 _ _ (Option.some.inj (same "chainId"))
    have spec := renders_str.2 _ _ (Option.some.inj (same "specRevision"))
    have contract := renders_text.2 _ _ (Option.some.inj (same "commerceContract"))
    have token := renders_text.2 _ _ (Option.some.inj (same "paymentToken"))
    have decimals := (renders_whole (by decide)).2 _ _ (Option.some.inj (same "paymentDecimals"))
    have abi := renders_text.2 _ _ (Option.some.inj (same "abiHash"))
    have profile := renders_str.2 _ _ (Option.some.inj (same "evaluatorProfile"))
    have threshold := (renders_whole (by decide)).2 _ _ (Option.some.inj (same "confirmationThreshold"))
    have lead := (renders_whole (by decide)).2 _ _ (Option.some.inj (same "minExpiryLeadSeconds"))
    have horizon := (renders_whole (by decide)).2 _ _ (Option.some.inj (same "maxExpiryHorizonSeconds"))
    have least := renders_text.2 _ _ (Option.some.inj (same "minBudgetAtomic"))
    have most := renders_text.2 _ _ (Option.some.inj (same "maxBudgetAtomic"))
    cases a
    cases b
    simp_all only

theorem renders_terms : Renders JobTerms.json := by
  have optionalAddress : Renders (Json.ofOption (@Json.text isAddress)) := renders_text.ofOption fun _ => Nat.succ_ne_zero _
  refine renders_obj (fun terms => ?_) (fun a b same => ?_)
  · simp [Json.wellFormed, wellFormedFields, renders_chainId.1, optionalAddress.1]
  · have chainId := renders_chainId.2 _ _ (Option.some.inj (same "chainId"))
    have contract := renders_text.2 _ _ (Option.some.inj (same "commerceContract"))
    have token := renders_text.2 _ _ (Option.some.inj (same "paymentToken"))
    have decimals := (renders_whole (by decide)).2 _ _ (Option.some.inj (same "paymentDecimals"))
    have client := renders_text.2 _ _ (Option.some.inj (same "clientAddress"))
    have provider := optionalAddress.2 _ _ (Option.some.inj (same "providerAddress"))
    have evaluator := renders_text.2 _ _ (Option.some.inj (same "evaluatorAddress"))
    have hook := optionalAddress.2 _ _ (Option.some.inj (same "hookAddress"))
    have budget := renders_text.2 _ _ (Option.some.inj (same "budgetAtomic"))
    have description := renders_text.2 _ _ (Option.some.inj (same "descriptionDigest"))
    have expires := (renders_whole (by decide)).2 _ _ (Option.some.inj (same "expiresAtUnix"))
    cases a
    cases b
    simp_all only

theorem renders_approval : Renders BuyerApproval.json := by
  refine renders_obj (fun approval => ?_) (fun a b same => ?_)
  · simp [Json.wellFormed, wellFormedFields]
  · have buyer := renders_text.2 _ _ (Option.some.inj (same "buyerAddress"))
    have digest := renders_text.2 _ _ (Option.some.inj (same "resultDigest"))
    have approved := (renders_whole (by decide)).2 _ _ (Option.some.inj (same "approvedAtUnix"))
    cases a
    cases b
    simp_all only

theorem renders_identity : Renders Erc8004Identity.json := by
  refine renders_obj (fun identity => ?_) (fun a b same => ?_)
  · simp [Json.wellFormed, wellFormedFields]
  · have name := renders_str.2 _ _ (Option.some.inj (same "namespace"))
    have chainId := (renders_whole (by decide)).2 _ _ (Option.some.inj (same "chainId"))
    have registry := renders_text.2 _ _ (Option.some.inj (same "identityRegistry"))
    have agent := renders_text.2 _ _ (Option.some.inj (same "agentId"))
    cases a
    cases b
    simp_all only

theorem renders_binding : Renders ProviderBinding.json := by
  refine renders_obj (fun binding => ?_) (fun a b same => ?_)
  · simp [Json.wellFormed, wellFormedFields, renders_identity.1]
  · have identity := renders_identity.2 _ _ (Option.some.inj (same "identity"))
    have version := renders_text.2 _ _ (Option.some.inj (same "agentVersionId"))
    have number := (renders_whole (by decide)).2 _ _ (Option.some.inj (same "agentVersion"))
    cases a
    cases b
    simp_all only

/-- Two job records with one canonical text are the same record. -/
theorem renders_job : Renders JobRecord.json := by
  have hash : Renders (Json.ofOption (@Json.text isTransactionHash)) := renders_text.ofOption fun _ => Nat.succ_ne_zero _
  have digest : Renders (Json.ofOption (@Json.text isDigest)) := renders_text.ofOption fun _ => Nat.succ_ne_zero _
  have block : Renders (Json.ofOption (@Json.text isDecimal)) := renders_text.ofOption fun _ => Nat.succ_ne_zero _
  have time : Renders (Json.ofOption (@Json.whole 1 maxSafeInteger)) :=
    (renders_whole (by decide)).ofOption fun _ => Nat.succ_ne_zero _
  have approval : Renders (Json.ofOption BuyerApproval.json) := renders_approval.ofOption fun _ => Nat.succ_ne_zero _
  have binding : Renders (Json.ofOption ProviderBinding.json) := renders_binding.ofOption fun _ => Nat.succ_ne_zero _
  refine renders_obj (fun job => ?_) (fun a b same => ?_)
  · simp [JobRecord.requestFields, Json.wellFormed, wellFormedFields, renders_jobKey.1, renders_terms.1,
      renders_deploymentPin.1, hash.1, digest.1, block.1, time.1, approval.1, binding.1]
  · have created := (renders_whole (by decide)).2 _ _ (Option.some.inj (same "createdAtUnix"))
    have updated := (renders_whole (by decide)).2 _ _ (Option.some.inj (same "updatedAtUnix"))
    have jobKey := renders_jobKey.2 _ _ (Option.some.inj (same "jobKey"))
    have terms := renders_terms.2 _ _ (Option.some.inj (same "terms"))
    have pin := renders_deploymentPin.2 _ _ (Option.some.inj (same "deploymentPin"))
    have pinDigest := renders_text.2 _ _ (Option.some.inj (same "deploymentPinDigest"))
    have state := JobState.text_injective _ _ (renders_str.2 _ _ (Option.some.inj (same "state")))
    have deliverable := digest.2 _ _ (Option.some.inj (same "deliverableDigest"))
    have provider := binding.2 _ _ (Option.some.inj (same "providerBinding"))
    have buyer := approval.2 _ _ (Option.some.inj (same "buyerApproval"))
    have funding := hash.2 _ _ (Option.some.inj (same "fundingTransactionHash"))
    have submission := hash.2 _ _ (Option.some.inj (same "submissionTransactionHash"))
    have completion := hash.2 _ _ (Option.some.inj (same "completionTransactionHash"))
    have rejection := hash.2 _ _ (Option.some.inj (same "rejectionTransactionHash"))
    have refund := hash.2 _ _ (Option.some.inj (same "refundTransactionHash"))
    have observed := block.2 _ _ (Option.some.inj (same "lastObservedBlock"))
    have observedHash := hash.2 _ _ (Option.some.inj (same "lastObservedBlockHash"))
    have observedAt := time.2 _ _ (Option.some.inj (same "lastObservedAtUnix"))
    cases a
    cases b
    simp_all only

end Bnbera
