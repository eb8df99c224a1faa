import Bnbera.Validation
import Bnbera.Jobs.Types

namespace Bnbera.Reservations

def erc8004IdentityKey (identity : Erc8004Identity) : String :=
  trim identity.identityNamespace ++ ":" ++ toString identity.chainId.value ++ ":" ++ lower identity.identityRegistry.text ++
    ":" ++ identity.agentId.text

/-- The `pricing_manifest` of a version, with the fields that are read of it. -/
structure PricingManifest where
  model : String
  network : Option Nat
  tokenAddress : Option String
  decimals : Option Nat
  amountAtomic : Option String
  minAtomic : Option String
  maxAtomic : Option String
  tokenSymbol : Option String
deriving DecidableEq

structure ParsedPricing where
  priceAtomic : String
  tokenSymbol : Option String
  tokenAddress : String
  decimals : Nat
  network : Nat
deriving DecidableEq

inductive ServiceKind
  | a2a
  | adapter
deriving DecidableEq

/-- A parsed `URL`. -/
structure ServiceUrl where
  protocol : String
  username : String
  password : String
  text : String
deriving DecidableEq

/-- A row of `listingSelect`: the agent, its identity, its current version and its healthy service. -/
structure ListingRow where
  agentId : String
  identity : Erc8004Identity
  slug : Option String
  ownerAddress : Option String
  ownerObservedBlock : Option Nat
  agentWallet : Option String
  agentWalletObservedBlock : Option Nat
  identityObservedBlock : Option Nat
  identityObservedBlockHash : Option String
  identityReadConsistency : Option String
  listingStatus : String
  verificationStatus : String
  runtimeStatus : String
  authorityStatus : String
  executionWallet : Option String
  agentVersionId : Uuid
  agentVersion : Within 1 maxSafeInteger
  pricingManifest : Option PricingManifest
  serviceKind : ServiceKind
  serviceUrl : Option ServiceUrl
  serviceProtocolVersion : String
  serviceObservedAt : Nat
  probeObservedAt : Nat
deriving DecidableEq

inductive ProviderAddressSource
  | erc8004AgentWallet
  | persistedExecutionWallet
deriving DecidableEq

structure QuotedService where
  kind : ServiceKind
  url : String
  protocolVersion : String
  observedAt : Nat
  probeObservedAt : Nat
deriving DecidableEq

structure CommerceProviderReadinessInput where
  identity : Erc8004Identity
  ownerAddress : Option String
  ownerObservedBlock : Option Nat
  agentWallet : Option String
  agentWalletObservedBlock : Option Nat
  identityObservedBlock : Option Nat
  identityObservedBlockHash : Option String
  identityReadConsistency : Option String
  providerAddress : String
  service : QuotedService
  chainId : Nat
  commerceContract : NonZeroAddress
  paymentToken : String
  paymentDecimals : Within 0 255
  priceAtomic : String
  authorityStatus : String
  agentVersionId : Uuid
  agentVersion : Within 1 maxSafeInteger

/-- What `rowToListing` makes of a row. -/
structure Listing where
  identity : Erc8004Identity
  providerAddress : String
  providerAddressSource : ProviderAddressSource
  agentVersionId : Uuid
  agentVersion : Within 1 maxSafeInteger
  price : ParsedPricing
  service : QuotedService
  readiness : CommerceProviderReadinessInput

def asAtomic (value label : String) : Except Failure String :=
  if isDecimal value then .ok value
  else .error (commerceError .invalidQuote ("The persisted " ++ label ++ " is not an atomic amount.") "reload_listing")

def optionalAtomic (value : Option String) (label : String) : Except Failure (Option String) :=
  match value with
  | none => .ok none
  | some value => some <$> asAtomic value label

/-- Only a single exact amount is a price. -/
def parsePersistedPricing (value : Option PricingManifest) (pin : EnabledDeploymentPin) : Except Failure ParsedPricing := do
  match value with
  | none => throw (commerceError .invalidQuote "The marketplace price snapshot is unavailable." "reload_listing")
  | some pricing => do
    refuseIf (pricing.model ≠ "fixed" ∧ pricing.model ≠ "range")
      (commerceError .invalidQuote "This marketplace listing has no fixed persisted ERC-8183 price." "choose_priced_agent")
    refuseIf (pricing.network ≠ some pin.chainId.number)
      (commerceError .invalidChain "The persisted listing network does not match the pinned ERC-8183 network." "reload_listing")
    let tokenAddress := (pricing.tokenAddress.filter isEvmAddress).getD ""
    refuseIf (lower tokenAddress ≠ lower pin.paymentToken.text)
      (commerceError .invalidToken "The persisted listing payment token does not match the standards-locked token." "reload_listing")
    refuseIf (pricing.decimals.map Int.ofNat ≠ some pin.paymentDecimals.value)
      (commerceError .invalidToken "The persisted listing payment decimals do not match the standards lock." "reload_listing")
    let amount ← optionalAtomic pricing.amountAtomic "price"
    let min ← optionalAtomic pricing.minAtomic "minimum price"
    let max ← optionalAtomic pricing.maxAtomic "maximum price"
    match min.or amount with
    | none => throw (commerceError .invalidQuote
        "This listing exposes a price range rather than one persisted quote amount." "choose_fixed_price_agent")
    | some price => do
      refuseIf (max.or amount ≠ some price)
        (commerceError .invalidQuote "This listing exposes a price range rather than one persisted quote amount."
          "choose_fixed_price_agent")
      let atomic := decimalValue price
      refuseIf (atomic = 0 ∨ atomic < decimalValue pin.minBudgetAtomic.text ∨ decimalValue pin.maxBudgetAtomic.text < atomic)
        (commerceError .invalidAmount "The persisted listing price is outside the standards-locked budget bounds." "reload_listing")
      let symbol := pricing.tokenSymbol.map trim
      return {
        priceAtomic := toString atomic
        tokenSymbol := (symbol.filter (· ≠ "")).map fun text => String.ofList (text.toList.take 32)
        tokenAddress := tokenAddress
        decimals := pricing.decimals.getD 0
        network := pin.chainId.number }

def isZeroAddress (text : String) : Bool :=
  match text.toList with
  | '0' :: x :: digits => x.toLower == 'x' && digits.length == 40 && digits.all (· == '0')
  | _ => false

def providerFromListing (row : ListingRow) : Except Failure (String × ProviderAddressSource) :=
  match row.executionWallet.or row.agentWallet with
  | some candidate =>
    if isEvmAddress candidate ∧ ¬isZeroAddress candidate then
      .ok (lower candidate, if row.executionWallet = none then .erc8004AgentWallet else .persistedExecutionWallet)
    else .error (commerceError .invalidAddress "The published listing has no genuine provider execution address." "reload_listing")
  | none => .error (commerceError .invalidAddress "The published listing has no genuine provider execution address." "reload_listing")

def assertLiveListing (row : ListingRow) : Except Failure Unit := do
  refuseIf (row.listingStatus ≠ "published" ∨ row.verificationStatus ≠ "verified")
    (commerceError .staleJob "The selected marketplace listing is not currently published and verified." "reload_listing")
  refuseIf (row.runtimeStatus ≠ "live")
    (commerceError .staleJob "The selected marketplace provider is not currently live." "reload_listing")
  refuseIf (row.identityObservedBlock = none ∨ row.identityReadConsistency ≠ some "finalized")
    (commerceError .staleJob "The selected listing has no finalized ERC-8004 identity observation." "reload_listing")

def quotedService (row : ListingRow) (url : ServiceUrl) : QuotedService where
  kind := row.serviceKind
  url := url.text
  protocolVersion := row.serviceProtocolVersion
  observedAt := row.serviceObservedAt
  probeObservedAt := row.probeObservedAt

def readinessInput (row : ListingRow) (pin : EnabledDeploymentPin) (providerAddress : String) (price : ParsedPricing)
    (service : QuotedService) : CommerceProviderReadinessInput where
  identity := row.identity
  ownerAddress := row.ownerAddress
  ownerObservedBlock := row.ownerObservedBlock
  agentWallet := row.agentWallet
  agentWalletObservedBlock := row.agentWalletObservedBlock
  identityObservedBlock := row.identityObservedBlock
  identityObservedBlockHash := row.identityObservedBlockHash
  identityReadConsistency := row.identityReadConsistency
  providerAddress := providerAddress
  service := service
  chainId := price.network
  commerceContract := pin.commerceContract
  paymentToken := price.tokenAddress
  paymentDecimals := pin.paymentDecimals
  priceAtomic := price.priceAtomic
  authorityStatus := row.authorityStatus
  agentVersionId := row.agentVersionId
  agentVersion := row.agentVersion

def rowToListing (row : ListingRow) (pin : EnabledDeploymentPin) : Except Failure Listing := do
  assertLiveListing row
  refuseIf (row.identity.chainId.value ≠ pin.chainId.number)
    (commerceError .invalidChain "The published listing identity is on a different network than the ERC-8183 deployment."
      "reload_listing")
  let (providerAddress, source) ← providerFromListing row
  let price ← parsePersistedPricing row.pricingManifest pin
  match row.serviceUrl with
  | none => throw (.foreign "Invalid URL")
  | some url => do
    refuseIf (url.protocol ≠ "https:" ∨ url.username ≠ "" ∨ url.password ≠ "")
      (commerceError .invalidQuote "The published callable service URL is unsafe or unavailable." "reload_listing")
    refuseIf (row.authorityStatus ∉ ["none", "active", "expired", "revoked"])
      (commerceError .onchainMismatch "The published listing authority state is invalid." "reload_listing")
    let service := quotedService row url
    return {
      identity := row.identity
      providerAddress := providerAddress
      providerAddressSource := source
      agentVersionId := row.agentVersionId
      agentVersion := row.agentVersion
      price := price
      service := service
      readiness := readinessInput row pin providerAddress price service }

variable {row : ListingRow} {pin : EnabledDeploymentPin} {listing : Listing}

theorem rowToListing_chain (read : rowToListing row pin = .ok listing) :
    listing.identity.chainId.value = pin.chainId.number := by
  obtain ⟨_, _, read⟩ := bind_eq_ok.mp read
  obtain ⟨same, read⟩ := refuseIf_bind_eq_ok.mp read
  obtain ⟨⟨_, _⟩, _, read⟩ := bind_eq_ok.mp read
  obtain ⟨_, _, read⟩ := bind_eq_ok.mp read
  dsimp only at read
  split at read
  · cases read
  · obtain ⟨_, read⟩ := refuseIf_bind_eq_ok.mp read
    obtain ⟨_, read⟩ := refuseIf_bind_eq_ok.mp read
    cases read
    exact not_not.mp same

end Bnbera.Reservations
