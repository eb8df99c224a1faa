import Mathlib.Data.List.MinMax
import Mathlib.Data.Prod.Lex
import Mathlib.Data.String.Basic
import Bnbera.Interleaving.Program
import Bnbera.Json
import Bnbera.Reservations.Listing

namespace Bnbera.Reservations

open Interleaving

/-- An offer that a seller signed for a task, with the text that it is stored as. -/
structure ExternalSellerQuote where
  providerAddress : String
  priceAtomic : String
  signedDescription : String
  expiresAtUnix : Nat
  signedOffer : String

structure ExternalSeller where
  requestedTask : String
  signedOffer : String
  historicalJobId : Option String
deriving DecidableEq

/-- `commerceQuoteSnapshotSchema`. Times are in milliseconds. -/
structure CommerceQuoteSnapshot where
  quoteId : Uuid
  agentIdentifier : String
  identity : Erc8004Identity
  agentVersionId : Uuid
  agentVersion : Within 1 maxSafeInteger
  providerAddress : String
  providerAddressSource : ProviderAddressSource
  service : QuotedService
  chainId : BscChainId
  commerceContract : NonZeroAddress
  paymentToken : NonZeroAddress
  paymentDecimals : Within 0 255
  tokenSymbol : Option String
  priceAtomic : String
  task : String
  taskDigest : String
  externalSeller : Option ExternalSeller
  issuedAt : Nat
  expiresAt : Nat
deriving DecidableEq

inductive CommerceJobStatus
  | draft
  | negotiating
  | funded
  | accepted
  | submitted
  | completed
  | rejected
  | disputed
  | settled
  | cancelled
deriving DecidableEq

/-- A row of `commerce_jobs`. -/
structure ReservationRow where
  id : Uuid
  erc8183JobId : String
  buyerUserId : String
  providerAgentId : String
  quote : CommerceQuoteSnapshot
  price : String
  taskInputDigest : String
  status : CommerceJobStatus
  fundingTransactionHash : Option String
  fulfillmentTransactionHash : Option String
  disputeTransactionHash : Option String
  settlementTransactionHash : Option String
  createdAt : Nat
deriving DecidableEq

def Unpaid (row : ReservationRow) : Prop := row.status = .draft ∨ row.status = .negotiating

instance (row : ReservationRow) : Decidable (Unpaid row) := inferInstanceAs (Decidable (_ ∨ _))

/-- What the constructor of the reservation store fixes, with what is read of the environment and the seller catalog. -/
structure ReservationStore where
  pin : EnabledDeploymentPin
  resolvesReadiness : Bool
  negotiates : Bool
  verifiesSavedOffers : Bool
  quoteLifetimeSeconds : Nat
  referenceAgentId : Option String
  historicalJob : Erc8004Identity → Option String

structure QuoteReservation where
  buyerUserId : String
  listingRow : ListingRow
  listing : Listing
  task : String
  nowUnix : Nat
  snapshot : CommerceQuoteSnapshot

/-- A transaction that ended, with what others answered in it: the provider's readiness, the check of the saved offer
and the reference provider's capacity. -/
structure Transacted where
  readiness : Except Failure Unit
  savedOffer : Except Failure Unit
  capacity : Except Failure Unit
  result : Except Failure CommerceQuoteSnapshot

inductive ReservationCall
  | readListing (identifier : String)
  | admitReferenceTask (task : String)
  | resolveReadiness (input : CommerceProviderReadinessInput)
  | negotiate (input : CommerceProviderReadinessInput) (task : String)
  | clock
  | randomUUID
  | reserve (request : QuoteReservation)
  | claim (commerceJobId buyerUserId : String)

abbrev ReservationCall.Answer : ReservationCall → Type
  | readListing _ => Option ListingRow
  | admitReferenceTask _ => Except Failure Unit
  | resolveReadiness _ => Except Failure Unit
  | negotiate _ _ => Except Failure ExternalSellerQuote
  | clock => Nat
  | randomUUID => Uuid
  | reserve _ => Transacted
  | claim _ _ => Except Failure Unit

abbrev ReservationWork := ExceptT Failure (Program ReservationCall ReservationCall.Answer)

def ask (call : ReservationCall) : ReservationWork call.Answer := ExceptT.lift (Program.ask call)

section
variable [Sha256]

def digestTask (task : String) : String := lower (canonicalSha256Hex (.str task)).text

/-- `parseReservationRow`, of a snapshot that its schema accepts. -/
def parseReservationRow (row : ReservationRow) : Except Failure CommerceQuoteSnapshot := do
  refuseIf (row.price ≠ row.quote.priceAtomic ∨ lower row.taskInputDigest ≠ lower row.quote.taskDigest)
    (commerceError .onchainMismatch "The persisted quote reservation does not match its snapshot." "manual_review")
  return row.quote

end

/-- `commerceQuoteRequestSchema` -/
def parseQuoteRequest (agentIdentifier task : String) : Except Failure (String × String) := do
  let text (path : String) (high : Nat) (value : String) : List Issue :=
    if (utf16Units value).length = 0 then [⟨[path], "String must contain at least 1 character(s)"⟩]
    else if high < (utf16Units value).length then
      [⟨[path], "String must contain at most " ++ toString high ++ " character(s)"⟩]
    else []
  let agentIdentifier := trim agentIdentifier
  let task := trim task
  let issues := text "agentIdentifier" 400 agentIdentifier ++ text "task" 4096 task
  refuseIf (issues ≠ []) (.zod issues)
  refuseIf (4096 < task.utf8ByteSize) (.zod [⟨["task"], "The task must contain at most 4096 UTF-8 bytes."⟩])
  return (agentIdentifier, task)

namespace ReservationStore

variable (store : ReservationStore)

def assertQuoteStillCurrent (quote : CommerceQuoteSnapshot) (listing : Listing) (nowUnix : Nat) : Except Failure Unit := do
  refuseIf (quote.expiresAt ≤ nowUnix * 1000)
    (commerceError .staleJob "The quote has expired; request a fresh quote." "reload_quote")
  refuseIf (erc8004IdentityKey quote.identity ≠ erc8004IdentityKey listing.identity ∨
      quote.agentVersionId ≠ listing.agentVersionId ∨
      quote.agentVersion ≠ listing.agentVersion ∨
      lower quote.providerAddress ≠ lower listing.providerAddress ∨
      (quote.externalSeller = none ∧ quote.priceAtomic ≠ listing.price.priceAtomic) ∨
      quote.chainId ≠ store.pin.chainId ∨
      lower quote.commerceContract.text ≠ lower store.pin.commerceContract.text ∨
      lower quote.paymentToken.text ≠ lower store.pin.paymentToken.text ∨
      quote.paymentDecimals ≠ store.pin.paymentDecimals)
    (commerceError .staleJob "The quote no longer matches the current published marketplace state." "reload_quote")

/-- `listingByIdentifier`, with the row read as a listing. -/
def listingByIdentifier (identifier : String) : ReservationWork (ListingRow × Listing) := do
  match ← ask (.readListing identifier) with
  | none => throw (commerceError .unknownJob "The selected marketplace agent is not available." "reload_listing")
  | some row => do
    let listing ← rowToListing row store.pin
    return (row, listing)

def admitTask (listing : Listing) (task : String) : ReservationWork Unit := do
  if listing.identity.chainId.value = 97 ∧ some listing.identity.agentId.text = store.referenceAgentId then
    let admitted ← ask (.admitReferenceTask task)
    admitted

def Resolves (listing : Listing) : Prop := listing.readiness.authorityStatus = "none"

instance (listing : Listing) : Decidable (Resolves listing) := inferInstanceAs (Decidable (_ = _))

def unresolvedReadiness : Failure :=
  commerceError .commerceDisabled "The external provider has no configured readiness resolver." "configure_provider_readiness"

/-- `assertProviderReadiness`, with what the resolver and the checks of its answer say. -/
def readinessOf (listing : Listing) (resolved : Except Failure Unit) : Except Failure Unit :=
  if ¬Resolves listing then .ok ()
  else if store.resolvesReadiness = false then .error unresolvedReadiness
  else resolved

def assertProviderReadiness (listing : Listing) : ReservationWork Unit := do
  if Resolves listing ∧ store.resolvesReadiness = true then
    let resolved ← ask (.resolveReadiness listing.readiness)
    store.readinessOf listing resolved
  else store.readinessOf listing (.ok ())

def negotiateOffer (listing : Listing) (task : String) : ReservationWork (Option ExternalSellerQuote) := do
  if listing.identity.chainId.value = 56 then
    if store.negotiates = false then
      throw (commerceError .commerceDisabled "Mainnet external hiring requires a fresh provider-signed offer." "refresh_seller_offer")
    else do
      let negotiated ← ask (.negotiate listing.readiness task)
      let offer ← negotiated
      let _ ← refuseIf (lower offer.providerAddress ≠ lower listing.providerAddress)
        (commerceError .staleJob "The signed seller provider changed; refresh the listing before proceeding." "reload_listing")
      return some offer
  else return none

variable [Sha256]

def snapshot (quoteId : Uuid) (agentIdentifier task : String) (listing : Listing) (offer : Option ExternalSellerQuote)
    (nowUnix : Nat) : CommerceQuoteSnapshot :=
  let contractTask := (offer.map (·.signedDescription)).getD task
  { quoteId := quoteId
    agentIdentifier := agentIdentifier
    identity := listing.identity
    agentVersionId := listing.agentVersionId
    agentVersion := listing.agentVersion
    providerAddress := listing.providerAddress
    providerAddressSource := listing.providerAddressSource
    service := listing.service
    chainId := store.pin.chainId
    commerceContract := store.pin.commerceContract
    paymentToken := store.pin.paymentToken
    paymentDecimals := store.pin.paymentDecimals
    tokenSymbol := listing.price.tokenSymbol
    priceAtomic := (offer.map (·.priceAtomic)).getD listing.price.priceAtomic
    task := contractTask
    taskDigest := digestTask contractTask
    externalSeller := offer.map fun offer => ⟨task, offer.signedOffer, store.historicalJob listing.identity⟩
    issuedAt := nowUnix * 1000
    expiresAt := (offer.map (·.expiresAtUnix)).getD (nowUnix + store.quoteLifetimeSeconds) * 1000 }

def Matches (request : QuoteReservation) (row : ReservationRow) : Prop :=
  row.buyerUserId = request.buyerUserId ∧ row.providerAgentId = request.listingRow.agentId ∧
    (row.taskInputDigest = request.snapshot.taskDigest ∨
      (∃ seller ∈ row.quote.externalSeller, seller.requestedTask = request.task) ∧
        row.quote.agentVersionId = request.listing.agentVersionId) ∧ Unpaid row

instance (request : QuoteReservation) (row : ReservationRow) : Decidable (Matches request row) :=
  inferInstanceAs (Decidable (_ ∧ _))

/-- `ORDER BY "createdAt" DESC, id DESC LIMIT 1` -/
def newest (rows : List ReservationRow) : Option ReservationRow :=
  rows.argmax fun row => toLex (row.createdAt, row.id.text)

def inserted (request : QuoteReservation) : ReservationRow where
  id := request.snapshot.quoteId
  erc8183JobId := "draft:" ++ request.snapshot.quoteId.text
  buyerUserId := request.buyerUserId
  providerAgentId := request.listingRow.agentId
  quote := request.snapshot
  price := request.snapshot.priceAtomic
  taskInputDigest := request.snapshot.taskDigest
  status := .draft
  fundingTransactionHash := none
  fulfillmentTransactionHash := none
  disputeTransactionHash := none
  settlementTransactionHash := none
  createdAt := request.snapshot.issuedAt

/-- Anything but a `CommerceError` is thrown as one. -/
def persistenceFailure (message nextAction : String) : Failure → Failure
  | .commerce error => .commerce error
  | _ => commerceError .commerceDisabled message nextAction

/-- The quote of the newest matching row, unless it is stale. -/
def reuse (request : QuoteReservation) (answers : Transacted) (existing : ReservationRow) :
    Except Failure (Option CommerceQuoteSnapshot) := do
  let quote ← parseReservationRow existing
  let _ ← store.readinessOf request.listing answers.readiness
  let current : Except Failure Unit := do
    store.assertQuoteStillCurrent quote request.listing request.nowUnix
    if quote.externalSeller = none then return
    else if store.verifiesSavedOffers = false then
      throw (commerceError .invalidQuote "The saved seller offer cannot be verified.")
    else answers.savedOffer
  match current with
  | .ok () => return some quote
  | .error failure => if failure.hasCode .staleJob then return none else throw failure

def refused (failure : Failure) (rows : List ReservationRow) : Except Failure CommerceQuoteSnapshot × List ReservationRow :=
  (.error (persistenceFailure "The quote reservation could not be persisted." "retry_quote" failure), rows)

/-- The `INSERT` of a quote's transaction, with the admission of a task for the reference provider. -/
def insert (request : QuoteReservation) (capacity : Except Failure Unit) (rows : List ReservationRow) :
    Except Failure CommerceQuoteSnapshot × List ReservationRow :=
  if ∃ row ∈ rows, row.id = request.snapshot.quoteId then refused (.foreign "duplicate key value") rows
  else if request.listing.identity.chainId.value = 97 ∧ request.listing.identity.agentId.text = "2293" then
    match capacity with
    | .error failure => refused failure rows
    | .ok () => (.ok request.snapshot, rows ++ [inserted request])
  else (.ok request.snapshot, rows ++ [inserted request])

def reserve (request : QuoteReservation) (answers : Transacted) (rows : List ReservationRow) :
    Except Failure CommerceQuoteSnapshot × List ReservationRow :=
  match newest (rows.filter (Matches request ·)) with
  | none => insert request answers.capacity rows
  | some existing =>
    match store.reuse request answers existing with
    | .error failure => refused failure rows
    | .ok (some quote) => (.ok quote, rows)
    | .ok none => insert request answers.capacity rows

def quote (buyerUserId agentIdentifier task : String) : ReservationWork CommerceQuoteSnapshot := do
  let (agentIdentifier, task) ← parseQuoteRequest agentIdentifier task
  let (listingRow, listing) ← store.listingByIdentifier agentIdentifier
  store.admitTask listing task
  store.assertProviderReadiness listing
  let offer ← store.negotiateOffer listing task
  let now ← ask .clock
  let quoteId ← ask .randomUUID
  let transacted ← ask (.reserve {
    buyerUserId := buyerUserId
    listingRow := listingRow
    listing := listing
    task := task
    nowUnix := now / 1000
    snapshot := store.snapshot quoteId agentIdentifier task listing offer (now / 1000) })
  transacted.result

end ReservationStore

def assertClaimable (row : ReservationRow) (now : Nat) : Except Failure Unit := do
  let quote ← parseReservationRow row
  let _ ← refuseIf (quote.expiresAt ≤ now)
    (commerceError .staleJob "The quote has expired; request a fresh quote." "reload_quote")
  let _ ← refuseIf (¬Unpaid row)
    (commerceError .staleJob "The parent commerce reservation is no longer unpaid and reservable." "reload_quote")
  refuseIf (row.fundingTransactionHash ≠ none ∨ row.fulfillmentTransactionHash ≠ none ∨
      row.disputeTransactionHash ≠ none ∨ row.settlementTransactionHash ≠ none)
    (commerceError .staleJob "The parent commerce reservation already has chain evidence and cannot be claimed again."
      "reload_quote")

def claimedRow (commerceJobId buyerUserId : String) (row : ReservationRow) : ReservationRow :=
  if row.id.text = commerceJobId ∧ row.buyerUserId = buyerUserId ∧ row.status = .draft then { row with status := .negotiating }
  else row

def claimReservation (rows : List ReservationRow) (commerceJobId buyerUserId : String) (now : Nat) :
    Except Failure Unit × List ReservationRow :=
  match rows.find? fun row => row.id.text = commerceJobId ∧ row.buyerUserId = buyerUserId with
  | none => (.error (commerceError .unknownJob
      "The requested parent commerce reservation is unavailable for this buyer." "reload_quote"), rows)
  | some row =>
    match assertClaimable row now with
    | .error failure => (.error failure, rows)
    | .ok () => (.ok (), rows.map (claimedRow commerceJobId buyerUserId))

def claim (commerceJobId buyerUserId : String) : ReservationWork Unit := do
  let claimed ← ask (.claim commerceJobId buyerUserId)
  claimed

end Bnbera.Reservations
