import Mathlib.Data.Prod.Lex
import Bnbera.Jobs.Types
import Bnbera.Keyset
import Bnbera.Seller.Schemas

/-! The list of a buyer's commerce jobs, page by page. -/

namespace Bnbera.Seller.JobList

open JsonText

/-- What is taken from the language and the database: `toISOString` of a date in milliseconds, the texts that
`z.string().datetime({ offset: true })` admits, `Date.parse`, base64url of a UTF-8 text and back, and the microseconds
that the database reads a timestamp as. -/
class Host where
  toISOString : Int → Text
  isDatetime : Text → Bool
  dateParse : Text → Option Int
  toBase64Url : Text → Text
  ofBase64Url : Text → Text
  timestamptz : Text → Option Int

def yearOne : Int := -62135596800000

/-- The documented behaviour: a text of a date is ASCII and is read as that date, and ASCII comes back from base64url. -/
class LawfulHost [Host] : Prop where
  toISOString_narrow : ∀ time, ∀ c ∈ Host.toISOString time, c.val < 0x7f
  timestamptz_toISOString : ∀ {time}, Host.isDatetime (Host.toISOString time) = true → yearOne ≤ time →
    Host.timestamptz (Host.toISOString time) = some (1000 * time)
  ofBase64Url_toBase64Url : ∀ {text}, (∀ c ∈ text, c.val < 0x7f) → Host.ofBase64Url (Host.toBase64Url text) = text

/-! ### Tables -/

def isGroups : List Nat → Text → Bool
  | [], text => text.isEmpty
  | [length], text => text.length == length && text.all isHexUnit
  | length :: lengths, text =>
    (text.take length).length == length && (text.take length).all isHexUnit && (text.drop length).head? == some 0x2d &&
      isGroups lengths (text.drop (length + 1))

/-- `z.string().uuid()` -/
def isUuid (text : Text) : Bool := isGroups [8, 4, 4, 4, 12] text

structure Uuid where
  text : Text
  valid : isUuid text = true
  lower : lowerAscii text = text
deriving DecidableEq

/-- A row of `commerce_jobs`; times are microseconds. -/
structure CommerceJob (N : Type) where
  id : Uuid
  erc8183JobId : Text
  buyerUserId : Option Uuid
  quote : Value N
  price : Text
  status : Text
  createdAt : Int
  updatedAt : Int

/-- A row of `erc8183_jobs`. -/
structure CanonicalJob (N : Type) where
  id : Uuid
  commerceJobId : Uuid
  erc8183JobId : Text
  state : JobState
  chainId : Int
  paymentToken : Text
  paymentDecimals : Int
  expiresAt : Int
  providerBinding : Option (Value N)
  refundTransactionHash : Option Text

/-- A row of `agent_versions`. -/
structure AgentVersion (N : Type) where
  id : Uuid
  publicMetadata : Value N

/-- A row of `commerce_job_results`. -/
structure JobResult where
  commerceJobId : Uuid
  erc8183JobRecordId : Uuid
  state : Text

/-- A row of `commerce_job_reviews`. -/
structure JobReview where
  id : Uuid
  commerceJobId : Uuid
  buyerUserId : Uuid
  reviewState : Text
  revision : Int

/-- A row of `erc8183_operations`. -/
structure Operation (N : Type) where
  id : Uuid
  status : Text
  operationKind : Text
  transactionHash : Option Text
  updatedAtUnix : Int
  operationContext : Value N

structure Tables (N : Type) where
  commerceJobs : List (CommerceJob N)
  canonicalJobs : List (CanonicalJob N)
  agentVersions : List (AgentVersion N)
  results : List JobResult
  reviews : List JobReview
  operations : List (Operation N)

/-- What the database promises: ids and the commerce jobs of canonical jobs are unique, so are the canonical jobs of
results, and a result belongs to the canonical job of its commerce job. -/
structure Tables.Lawful {N : Type} (tables : Tables N) : Prop where
  jobs : (tables.commerceJobs.map CommerceJob.id).Nodup
  canonical : (tables.canonicalJobs.map CanonicalJob.commerceJobId).Nodup
  versions : (tables.agentVersions.map AgentVersion.id).Nodup
  records : (tables.results.map JobResult.erc8183JobRecordId).Nodup
  owned : ∀ result ∈ tables.results, ∃ job ∈ tables.canonicalJobs,
    job.id = result.erc8183JobRecordId ∧ job.commerceJobId = result.commerceJobId

/-! ### Rows -/

structure JobRow (N : Type) where
  commerceJobId : Uuid
  parentProtocolJobId : Text
  quote : Value N
  priceAtomic : Text
  parentStatus : Text
  createdAt : Int
  updatedAt : Int
  canonicalProtocolJobId : Option Text
  canonicalState : Option JobState
  canonicalChainId : Option Int
  paymentToken : Option Text
  paymentDecimals : Option Int
  expiresAt : Option Int
  providerBinding : Option (Value N)
  refundTransactionHash : Option Text
  resultState : Option Text
  reviewId : Option Uuid
  agentName : Option Text
  agentSlug : Option Text
  operation : Option (Operation N)

/-- `LEFT JOIN` with the rows that match. -/
def leftJoin {α : Type} (matching : List α) : List (Option α) := if matching.isEmpty then [none] else matching.map some

section
variable {N : Type} [Numbers N]

/-- `value->>key` -/
def textField (value : Value N) (key : String) : Option Text :=
  match field (record (some value)) key with
  | none => none
  | some (.leaf .null) => none
  | some (.leaf (.str text)) => some text
  | some other => some (stringify other)

def stringMember (value : Value N) (key : String) : Option Text := readText isAny (field (record (some value)) key)

/-- `date_trunc('milliseconds', …)`, as the driver's date. -/
def truncated (time : Int) : Int := time / 1000

def latest {α : Type} (key : α → Int) (id : α → Uuid) (items : List α) : Option α :=
  (Keyset.descending (fun item => toLex (key item, (id item).text)) items).head?

def activeReview (tables : Tables N) (job : CommerceJob N) : Option JobReview :=
  latest JobReview.revision JobReview.id (tables.reviews.filter fun review =>
    review.commerceJobId = job.id ∧ some review.buyerUserId = job.buyerUserId ∧ review.reviewState = units "active")

def latestOperation (tables : Tables N) (job : CommerceJob N) : Option (Operation N) :=
  latest Operation.updatedAtUnix Operation.id (tables.operations.filter fun operation =>
    ((field (record (some operation.operationContext)) "parameters").bind fun parameters =>
      textField parameters "commerceJobId") = some job.id.text)

def jobRow (tables : Tables N) (job : CommerceJob N) (canonical : Option (CanonicalJob N)) (version : Option (AgentVersion N))
    (result : Option JobResult) : JobRow N where
  commerceJobId := job.id
  parentProtocolJobId := job.erc8183JobId
  quote := job.quote
  priceAtomic := job.price
  parentStatus := job.status
  createdAt := truncated job.createdAt
  updatedAt := truncated job.updatedAt
  canonicalProtocolJobId := canonical.map CanonicalJob.erc8183JobId
  canonicalState := canonical.map CanonicalJob.state
  canonicalChainId := canonical.map CanonicalJob.chainId
  paymentToken := canonical.map CanonicalJob.paymentToken
  paymentDecimals := canonical.map CanonicalJob.paymentDecimals
  expiresAt := canonical.map fun canonical => truncated canonical.expiresAt
  providerBinding := canonical.bind CanonicalJob.providerBinding
  refundTransactionHash := canonical.bind CanonicalJob.refundTransactionHash
  resultState := result.map JobResult.state
  reviewId := (activeReview tables job).map JobReview.id
  agentName := version.bind fun version => stringMember version.publicMetadata "name"
  agentSlug := version.bind fun version => stringMember version.publicMetadata "slug"
  operation := latestOperation tables job

def joined (tables : Tables N) (job : CommerceJob N) : List (JobRow N) :=
  (leftJoin (tables.canonicalJobs.filter fun canonical => canonical.commerceJobId = job.id)).flatMap fun canonical =>
    let versionId := ((canonical.bind CanonicalJob.providerBinding).bind fun binding => textField binding "agentVersionId").orElse
      fun _ => textField job.quote "agentVersionId"
    (leftJoin (tables.agentVersions.filter fun version => some version.id.text = versionId)).flatMap fun version =>
      (leftJoin (tables.results.filter fun result => result.commerceJobId = job.id)).map fun result =>
        jobRow tables job canonical version result

def JobRow.key (row : JobRow N) : Int ×ₗ Text := toLex (1000 * row.updatedAt, row.commerceJobId.text)

def selectRows (tables : Tables N) (buyer : Uuid) (bound : Option (Int ×ₗ Text)) (limit : Nat) : List (JobRow N) :=
  Keyset.page JobRow.key ((tables.commerceJobs.filter fun job => job.buyerUserId = some buyer).flatMap (joined tables)) bound limit

/-! ### Summaries -/

structure AppError where
  code : String
  safeMessage : String
  requestId : String
  nextAction : String
  retriable : Bool
deriving DecidableEq

inductive Failure
  | app (error : AppError)
  | zod
  | range

def invalidRequest (message : String) : Failure :=
  .app ⟨"COMMERCE_REQUEST_INVALID", message, "req_web_commerce_jobs", "check_request", false⟩

def unavailable : Failure :=
  .app ⟨"COMMERCE_API_UNAVAILABLE", "The hired jobs history could not be loaded.", "req_web_commerce_jobs", "retry_request", true⟩

inductive CommerceJobStatus
  | draft
  | negotiating
  | funded
  | accepted
  | submitted
  | completed
  | rejected
  | disputed
  | settled
  | cancelled
deriving DecidableEq

def commerceJobStatuses : List (String × CommerceJobStatus) :=
  [("draft", .draft), ("negotiating", .negotiating), ("funded", .funded), ("accepted", .accepted), ("submitted", .submitted),
    ("completed", .completed), ("rejected", .rejected), ("disputed", .disputed), ("settled", .settled),
    ("cancelled", .cancelled)]

inductive OperationStatus
  | awaitingSignature
  | submitted
  | confirmed
  | reverted
  | unknown
  | reconciled
  | manualReview
deriving DecidableEq

def operationStatuses : List (String × OperationStatus) :=
  [("awaiting_signature", .awaitingSignature), ("submitted", .submitted), ("confirmed", .confirmed), ("reverted", .reverted),
    ("unknown", .unknown), ("reconciled", .reconciled), ("manual_review", .manualReview)]

def operationKinds : List String :=
  ["create", "register", "set_budget", "approve", "fund", "submit", "settle", "claim_refund", "mark_expired", "cancel",
    "reject", "dispute", "vote"]

inductive NextAction
  | reviewQuote
  | requestFreshQuote
  | resumeFunding
  | resumeWalletStep
  | waitForConfirmation
  | reconcileTransaction
  | inspectFailedTransaction
  | waitForAgent
  | reviewResult
  | claimRefund
  | viewRefund
  | leaveReview
  | viewReceipt
  | viewJob
deriving DecidableEq

structure OperationSummary where
  operationId : Text
  status : OperationStatus
  step : Text
  transactionHash : Option Text
  updatedAt : Text

structure Draft (N : Type) where
  commerceJobId : Text
  protocolJobId : Option Text
  identity : Identity N
  versionId : Text
  version : N
  name : Option Text
  slug : Option Text
  status : CommerceJobStatus
  canonicalState : Option JobState
  amountAtomic : Text
  tokenAddress : Option Text
  tokenSymbol : Option Text
  decimals : Option Int
  chainId : Option Int
  createdAt : Text
  updatedAt : Text
  expiresAt : Option Text
  resultAvailable : Bool
  settlementAvailable : Bool
  reviewAvailable : Bool
  hasReview : Bool
  latestOperation : Option OperationSummary

structure BuyerJobSummary (N : Type) extends Draft N where
  nextAction : NextAction

variable [Integers N] [Host]

/-- `z.enum(…).parse` -/
def readName {α : Type} (names : List (String × α)) (text : Text) : Except Failure α :=
  match names.find? fun name => units name.1 = text with
  | some (_, value) => .ok value
  | none => .error .zod

def orFailure {α : Type} (failure : Failure) : Option α → Except Failure α
  | some value => .ok value
  | none => .error failure

/-- The text of a date that there is: `toISOString` throws for any other. -/
def isoText (time : Int) (failure : Failure) : Except Failure Text :=
  if time.natAbs ≤ 8640000000000000 then .ok (Host.toISOString time) else .error failure

def iso (time : Int) : Except Failure Text := isoText time unavailable

def nullableString (value : Option Text) (maximum : Nat) : Option Text :=
  value.filter fun text => (trim text).length != 0 && text.length ≤ maximum

def textMember (quote : Fields N) (key : String) : Option Text := readText isAny (field quote key)

def readIdentity (value : Option (Value N)) : Option (Identity N) := do
  let fields ← readObject value
  let namespaceText ← readText isAny (field fields "namespace")
  let chainId ← readNum isAny (field fields "chainId")
  let identityRegistry ← readText isAny (field fields "identityRegistry")
  let agentId ← readText isAny (field fields "agentId")
  return ⟨namespaceText, chainId, identityRegistry, agentId⟩

def erc8004IdentitySchema (identity : Identity N) : Option (Identity N) :=
  if identity.isValid then some { identity with namespaceText := trim identity.namespaceText } else none

def isPositiveInteger (n : N) : Bool := (Integers.toInt n).any fun value => 0 < value

structure ProviderBinding (N : Type) where
  identity : Identity N
  agentVersionId : Text
  agentVersion : N

def bindingNames : List String := ["identity", "agentVersionId", "agentVersion"]

def erc8183ProviderBindingSchema (fields : Fields N) : Option (ProviderBinding N) := do
  guard (isStrict fields bindingNames)
  let identity ← (readIdentity (field fields "identity")).bind erc8004IdentitySchema
  let agentVersionId ← readText isUuid (field fields "agentVersionId")
  let agentVersion ← readNum isPositiveInteger (field fields "agentVersion")
  return ⟨identity, agentVersionId, agentVersion⟩

def quoteRecord (value : Value N) : Except Failure (Fields N) := orFailure unavailable (readObject (some value))

def bindingCandidate (providerBinding : Option (Value N)) (quote : Fields N) : Option (Fields N) :=
  let quoted := quote.filter fun field => bindingNames.any fun name => field.1 == units name
  match providerBinding with
  | none => some quoted
  | some (.leaf .null) => some quoted
  | some value => readObject (some value)

def binding (row : JobRow N) : Except Failure (ProviderBinding N) := do
  let quote ← quoteRecord row.quote
  orFailure unavailable ((bindingCandidate row.providerBinding quote).bind erc8183ProviderBindingSchema)

def nextAction (summary : Draft N) (quoteExpired refunded : Bool) : NextAction :=
  let operation := summary.latestOperation.map OperationSummary.status
  if operation = some .unknown ∨ operation = some .manualReview then .reconcileTransaction
  else if operation = some .awaitingSignature then .resumeWalletStep
  else if operation = some .submitted then .waitForConfirmation
  else if operation = some .reverted then .inspectFailedTransaction
  else if summary.canonicalState = some .expired then if refunded then .viewRefund else .claimRefund
  else if summary.canonicalState = some .submitted ∨ summary.status = .submitted ∨ summary.status = .accepted then .reviewResult
  else if summary.canonicalState = some .completed ∨ summary.status = .completed ∨ summary.status = .settled then
    if summary.reviewAvailable ∧ ¬summary.hasReview then .leaveReview else .viewReceipt
  else if summary.canonicalState = some .funded ∨ summary.status = .funded then .waitForAgent
  else if summary.status = .draft then if quoteExpired then .requestFreshQuote else .reviewQuote
  else if summary.status = .negotiating then .resumeFunding
  else .viewJob

def OperationSummary.isValid (operation : OperationSummary) : Bool :=
  isUuid operation.operationId && operation.transactionHash.all (isHexText 64) && Host.isDatetime operation.updatedAt

def Draft.isValid (draft : Draft N) : Bool :=
  isUuid draft.commerceJobId && draft.protocolJobId.all isDecimal && draft.identity.isValid && isUuid draft.versionId &&
    isPositiveInteger draft.version && draft.name.all (isText 200) && draft.slug.all (isText 200) &&
    isDecimal draft.amountAtomic && draft.tokenAddress.all (isHexText 40) && draft.tokenSymbol.all (isText 32) &&
    draft.decimals.all (fun value => 0 ≤ value && value ≤ 255) && draft.chainId.all (fun value => value == 56 || value == 97) &&
    Host.isDatetime draft.createdAt && Host.isDatetime draft.updatedAt && draft.expiresAt.all Host.isDatetime &&
    draft.latestOperation.all OperationSummary.isValid

def buyerJobSummarySchema (summary : BuyerJobSummary N) : Except Failure (BuyerJobSummary N) :=
  if summary.isValid then
    .ok { summary with identity := { summary.identity with namespaceText := trim summary.identity.namespaceText } }
  else .error .zod

def operationSummary (operation : Operation N) : Except Failure OperationSummary := do
  let status ← readName operationStatuses operation.status
  let step ← orFailure .zod (if operationKinds.any (fun kind => units kind == operation.operationKind) then
    some operation.operationKind else none)
  let updatedAt ← isoText (operation.updatedAtUnix * 1000) .range
  return ⟨operation.id.text, status, step, operation.transactionHash, updatedAt⟩

def isBscInteger (value : Int) : Bool := value == 56 || value == 97

def integerMember (quote : Fields N) (key : String) : Option Int := (readNum isAny (field quote key)).bind Integers.toInt

def expiryText (expiresAt : Option Int) (quote : Fields N) : Except Failure (Option Text) :=
  match expiresAt with
  | none => .ok (nullableString (textMember quote "expiresAt") 64)
  | some time => some <$> iso time

def tokenText (paymentToken : Option Text) (quote : Fields N) : Except Failure (Option Text) :=
  match paymentToken with
  | none => .ok ((readText (isHexText 40) (field quote "paymentToken")).map lowerAscii)
  | some token => orFailure .zod (if isHexText 40 token then some (some (lowerAscii token)) else none)

def toSummary (row : JobRow N) (now : Int) : Except Failure (BuyerJobSummary N) := do
  let quote ← quoteRecord row.quote
  let provider ← binding row
  let status ← readName commerceJobStatuses row.parentStatus
  let latestOperation ← row.operation.mapM operationSummary
  let expiresAt ← expiryText row.expiresAt quote
  let identity ← orFailure .zod (erc8004IdentitySchema provider.identity)
  let amountAtomic ← orFailure .zod (if isDecimal row.priceAtomic then some row.priceAtomic else none)
  let tokenAddress ← tokenText row.paymentToken quote
  let createdAt ← iso row.createdAt
  let updatedAt ← iso row.updatedAt
  let draft : Draft N := {
    commerceJobId := row.commerceJobId.text
    protocolJobId := row.canonicalProtocolJobId.orElse fun _ =>
      if isDecimal row.parentProtocolJobId then some row.parentProtocolJobId else none
    identity
    versionId := provider.agentVersionId
    version := provider.agentVersion
    name := nullableString row.agentName 200
    slug := nullableString row.agentSlug 200
    status
    canonicalState := row.canonicalState
    amountAtomic
    tokenAddress
    tokenSymbol := nullableString (textMember quote "tokenSymbol") 32
    decimals := row.paymentDecimals.orElse fun _ => integerMember quote "paymentDecimals"
    chainId := (row.canonicalChainId.filter isBscInteger).orElse fun _ => (integerMember quote "chainId").filter isBscInteger
    createdAt
    updatedAt
    expiresAt
    resultAvailable := row.resultState = some (units "submitted") ∨ row.resultState = some (units "settled")
    settlementAvailable := row.resultState = some (units "settled") ∨ status = .settled ∨ row.canonicalState = some .completed
    reviewAvailable := row.resultState = some (units "settled")
    hasReview := row.reviewId.isSome
    latestOperation }
  let quoteExpired := (expiresAt.bind Host.dateParse).any fun time => decide (time ≤ now)
  buyerJobSummarySchema { draft with nextAction := nextAction draft quoteExpired row.refundTransactionHash.isSome }

/-! ### Pages -/

structure CursorPayload where
  updatedAt : Text
  id : Text

def cursorPayloadSchema (value : Value N) : Option CursorPayload := do
  let fields ← readObject (some value)
  guard (isStrict fields ["updatedAt", "id"])
  let updatedAt ← readText Host.isDatetime (field fields "updatedAt")
  let id ← readText isUuid (field fields "id")
  return ⟨updatedAt, id⟩

variable (N) in
def decodeCursor (value : Option Text) : Except Failure (Option CursorPayload) :=
  match value with
  | none => .ok none
  | some value => some <$> orFailure (invalidRequest "The commerce jobs cursor is invalid.")
      ((parse (@readScalar N _) (Host.ofBase64Url value)).bind cursorPayloadSchema)

def CursorPayload.value (payload : CursorPayload) : Value N :=
  .obj [(units "updatedAt", str payload.updatedAt), (units "id", str payload.id)]

def encodeCursor (row : JobRow N) : Except Failure Text := do
  let updatedAt ← iso row.updatedAt
  return Host.toBase64Url (stringify (CursorPayload.value (N := N) ⟨updatedAt, row.commerceJobId.text⟩))

def readUuid (text : Text) : Option Uuid :=
  if shape : isUuid (lowerAscii text) = true ∧ lowerAscii (lowerAscii text) = lowerAscii text then
    some ⟨lowerAscii text, shape.1, shape.2⟩
  else none

structure CommerceJobsQuery where
  cursor : Option Text
  limit : Nat

structure CommerceJobsResponse (N : Type) where
  jobs : List (BuyerJobSummary N)
  nextCursor : Option Text

def commerceJobsMaximumLimit : Nat := 50

def commerceJobsResponseSchema (response : CommerceJobsResponse N) : Except Failure (CommerceJobsResponse N) := do
  let jobs ← response.jobs.mapM buyerJobSummarySchema
  if jobs.length ≤ commerceJobsMaximumLimit then .ok { response with jobs } else .error .zod

def cursorBound (payload : Option CursorPayload) : Except Failure (Option (Int ×ₗ Text)) :=
  match payload with
  | none => .ok none
  | some payload => some <$> orFailure unavailable do
      let updatedAt ← Host.timestamptz payload.updatedAt
      let id ← readUuid payload.id
      return toLex (updatedAt, id.text)

def nextCursorOf (page : List (JobRow N)) (more : Bool) : Except Failure (Option Text) :=
  match page.getLast? with
  | none => .ok none
  | some row => if more then some <$> encodeCursor row else .ok none

def listBuyerJobs (tables : Tables N) (buyerUserId : Text) (query : CommerceJobsQuery) (now : Int) :
    Except Failure (CommerceJobsResponse N) := do
  let buyer ← orFailure unavailable (if isUuid buyerUserId then readUuid buyerUserId else none)
  let cursor ← decodeCursor N query.cursor
  let bound ← cursorBound cursor
  let rows := selectRows tables buyer bound (query.limit + 1)
  let page := rows.take query.limit
  let jobs ← page.mapM fun row => toSummary row now
  let nextCursor ← nextCursorOf page (query.limit < rows.length)
  commerceJobsResponseSchema ⟨jobs, nextCursor⟩

def followPages (tables : Tables N) (buyerUserId : Text) (limit : Nat) : List Int → Option Text →
    Except Failure (List (CommerceJobsResponse N))
  | [], _ => .ok []
  | now :: times, cursor => do
    let response ← listBuyerJobs tables buyerUserId ⟨cursor, limit⟩ now
    match response.nextCursor with
    | none => return [response]
    | some cursor => do
      let more ← followPages tables buyerUserId limit times (some cursor)
      return response :: more

/-! ### Cursors -/

omit [Numbers N] [Integers N] [Host] in
theorem readUuid_text (id : Uuid) : readUuid id.text = some id := by
  obtain ⟨text, valid, lower⟩ := id
  have shape : isUuid (lowerAscii text) = true ∧ lowerAscii (lowerAscii text) = lowerAscii text := by
    rw [lower]
    exact ⟨valid, lower⟩
  rw [readUuid, dif_pos shape]
  simp only [lower]

omit [Numbers N] [Integers N] [Host] in
theorem Uuid.text_injective : Uuid.text.Injective := by
  rintro ⟨text, _, _⟩ ⟨other, _, _⟩ same
  cases same
  rfl

omit [Numbers N] [Integers N] [Host] in
theorem escapeUnit_narrow {c d : CodeUnit} (narrow : c.val < 0x7f) (member : d ∈ escapeUnit c) : d.val < 0x7f := by
  unfold escapeUnit at member
  split at member
  · next letter escaped =>
    rcases List.mem_cons.mp member with rfl | last
    · decide
    · exact List.mem_singleton.mp last ▸ escapeLetter_narrow escaped
  · split at member
    · exact hexEscape_narrow member
    · exact List.mem_singleton.mp member ▸ narrow

omit [Numbers N] [Integers N] [Host] in
theorem quote_narrow {text : Text} (narrow : ∀ c ∈ text, c.val < 0x7f) : ∀ c ∈ quote text, c.val < 0x7f := by
  have inner : ∀ text : Text, (∀ c ∈ text, c.val < 0x7f) → ∀ c ∈ quoteUnits text, c.val < 0x7f := by
    intro text
    induction text using quoteUnits.induct with
    | case1 => exact fun _ => nofun
    | case2 c => exact fun narrow d member => escapeUnit_narrow (narrow c List.mem_cons_self) member
    | case3 c d rest pair ih =>
      intro narrow
      have high := narrow c List.mem_cons_self
      simp [isHigh] at pair
      omega
    | case4 c d rest single ih =>
      intro narrow e member
      rw [quoteUnits, if_neg single] at member
      rcases List.mem_append.mp member with first | later
      · exact escapeUnit_narrow (narrow c List.mem_cons_self) first
      · exact ih (fun e member => narrow e (List.mem_cons_of_mem _ member)) e later
  intro c member
  rcases List.mem_cons.mp member with rfl | member
  · decide
  · rcases List.mem_append.mp member with body | last
    · exact inner text narrow c body
    · exact List.mem_singleton.mp last ▸ by decide

omit [Numbers N] [Integers N] [Host] in
theorem isHexUnit_narrow {c : CodeUnit} (hex : isHexUnit c = true) : c.val < 0x7f := by
  simp [isHexUnit] at hex
  omega

omit [Numbers N] [Integers N] [Host] in
theorem isGroups_narrow : ∀ {lengths : List Nat} {text : Text}, isGroups lengths text = true → ∀ c ∈ text, c.val < 0x7f
  | [], text, groups, c, member => by
    rw [isGroups, List.isEmpty_iff] at groups
    subst groups
    cases member
  | [length], text, groups, c, member => by
    rw [isGroups, Bool.and_eq_true] at groups
    exact isHexUnit_narrow (List.all_eq_true.mp groups.2 c member)
  | length :: next :: lengths, text, groups, c, member => by
    simp only [isGroups, Bool.and_eq_true] at groups
    obtain ⟨⟨⟨_, hex⟩, hyphen⟩, later⟩ := groups
    rw [← List.take_append_drop length text] at member
    rcases List.mem_append.mp member with first | rest
    · exact isHexUnit_narrow (List.all_eq_true.mp hex c first)
    · obtain ⟨tail, split⟩ := List.head?_eq_some_iff.mp (beq_iff_eq.mp hyphen)
      have behind : text.drop (length + 1) = tail := by rw [← List.drop_drop, split]; rfl
      rw [split] at rest
      rcases List.mem_cons.mp rest with rfl | last
      · decide
      · exact isGroups_narrow later c (behind ▸ last)

omit [Integers N] [Host] in
theorem stringify_payload (payload : CursorPayload) : stringify (payload.value : Value N) =
    0x7b :: ((quote (units "updatedAt") ++ 0x3a :: quote payload.updatedAt) ++ 0x2c ::
      (quote (units "id") ++ 0x3a :: quote payload.id)) ++ [0x7d] := by
  show 0x7b :: [0x2c].intercalate [_, _] ++ [0x7d] = _
  rw [List.intercalate_cons_cons, List.intercalate_singleton, List.append_assoc]
  rfl

omit [Integers N] [Host] in
theorem parse_payload [LawfulNumbers N] (payload : CursorPayload) :
    parse (@readScalar N _) (stringify (payload.value : Value N)) = some payload.value := by
  have formed : (payload.value : Value N).WellFormed Scalar.IsNormal :=
    ⟨show [units "updatedAt", units "id"].Nodup by decide, trivial, trivial, trivial⟩
  have printed := @parse_print (Scalar N) Scalar.IsNormal jsonQuoting _ _ (reads_scalars jsonQuoting) _ formed
  exact printed

omit [Numbers N] [Integers N] [Host] in
theorem narrow_of_all {text : Text} (all : text.all (fun c => decide (c.val < 0x7f)) = true) : ∀ c ∈ text, c.val < 0x7f :=
  fun c member => of_decide_eq_true (List.all_eq_true.mp all c member)

omit [Integers N] [Host] in
theorem stringify_payload_narrow {payload : CursorPayload} (updatedAt : ∀ c ∈ payload.updatedAt, c.val < 0x7f)
    (id : ∀ c ∈ payload.id, c.val < 0x7f) : ∀ c ∈ stringify (payload.value : Value N), c.val < 0x7f := by
  have names : (∀ c ∈ quote (units "updatedAt"), c.val < 0x7f) ∧ ∀ c ∈ quote (units "id"), c.val < 0x7f :=
    ⟨quote_narrow (narrow_of_all (by decide)), quote_narrow (narrow_of_all (by decide))⟩
  rw [stringify_payload]
  simp only [List.forall_mem_append, List.forall_mem_cons, List.cons_append]
  refine ⟨by decide, ⟨⟨names.1, by decide, quote_narrow updatedAt⟩, by decide, names.2, by decide, quote_narrow id⟩, by decide, nofun⟩

omit [Integers N] [Numbers N] in
theorem cursorPayloadSchema_value {payload : CursorPayload} (dated : Host.isDatetime payload.updatedAt = true)
    (uuid : isUuid payload.id = true) : cursorPayloadSchema (payload.value : Value N) = some payload := by
  have first : readText Host.isDatetime (some (str payload.updatedAt : Value N)) = some payload.updatedAt := if_pos dated
  have second : readText isUuid (some (str payload.id : Value N)) = some payload.id := if_pos uuid
  show ((readText Host.isDatetime (some (str payload.updatedAt : Value N))).bind fun updatedAt =>
    (readText isUuid (some (str payload.id : Value N))).bind fun id => some (CursorPayload.mk updatedAt id)) = some payload
  rw [first, second]
  rfl

omit [Integers N] in
theorem decodeCursor_encodeCursor [LawfulNumbers N] [LawfulHost] {row : JobRow N} {cursor : Text}
    (encoded : encodeCursor row = .ok cursor) (dated : Host.isDatetime (Host.toISOString row.updatedAt) = true) :
    decodeCursor N (some cursor) = .ok (some ⟨Host.toISOString row.updatedAt, row.commerceJobId.text⟩) := by
  have same : cursor = Host.toBase64Url (stringify
      (CursorPayload.value (N := N) ⟨Host.toISOString row.updatedAt, row.commerceJobId.text⟩)) := by
    unfold encodeCursor iso isoText at encoded
    split at encoded
    · exact (Except.ok.inj encoded).symm
    · cases encoded
  have back := LawfulHost.ofBase64Url_toBase64Url (@stringify_payload_narrow N _ ⟨_, row.commerceJobId.text⟩
    (LawfulHost.toISOString_narrow row.updatedAt) (isGroups_narrow row.commerceJobId.valid))
  unfold decodeCursor
  dsimp only
  rw [same, back, parse_payload, Option.bind_some, cursorPayloadSchema_value dated row.commerceJobId.valid]
  rfl

/-! ### The rows of the jobs -/

omit [Numbers N] [Integers N] [Host] in
theorem leftJoin_unique {α κ : Type} {key : α → κ} {items : List α} (distinct : (items.map key).Nodup) {shown : α → Bool}
    (same : ∀ a ∈ items, ∀ b ∈ items, shown a = true → shown b = true → key a = key b) :
    ∃ item, leftJoin (items.filter shown) = [item] := by
  have distinct' : ((items.filter shown).map key).Nodup := distinct.sublist (List.filter_sublist.map key)
  cases found : items.filter shown with
  | nil => exact ⟨none, rfl⟩
  | cons first rest =>
    cases rest with
    | nil => exact ⟨some first, rfl⟩
    | cons second rest =>
      rw [found] at distinct'
      have member : ∀ {a}, a ∈ first :: second :: rest → a ∈ items ∧ shown a = true := fun member =>
        List.mem_filter.mp (found ▸ member)
      have one := member List.mem_cons_self
      have two := member (List.mem_cons_of_mem _ List.mem_cons_self)
      have equal := same first one.1 second two.1 one.2 two.2
      rw [List.map_cons, List.map_cons, equal] at distinct'
      exact absurd List.mem_cons_self (List.nodup_cons.mp distinct').1

omit [Integers N] [Host] in
/-- A job has one row. -/
theorem joined_single {tables : Tables N} (lawful : tables.Lawful) (job : CommerceJob N) :
    ∃ row, joined tables job = [row] ∧ row.commerceJobId = job.id ∧ row.updatedAt = truncated job.updatedAt := by
  have canonicals : ∃ canonical, leftJoin (tables.canonicalJobs.filter fun canonical => canonical.commerceJobId = job.id) =
      [canonical] := by
    refine leftJoin_unique lawful.canonical fun a _ b _ first second => ?_
    simp only [decide_eq_true_eq] at first second
    rw [first, second]
  have versions : ∀ versionId : Option Text, ∃ version,
      leftJoin (tables.agentVersions.filter fun version => some version.id.text = versionId) = [version] := by
    intro versionId
    refine leftJoin_unique lawful.versions fun a _ b _ first second => ?_
    simp only [decide_eq_true_eq] at first second
    exact Uuid.text_injective (Option.some.inj (first.trans second.symm))
  have results : ∃ result, leftJoin (tables.results.filter fun result => result.commerceJobId = job.id) = [result] := by
    refine leftJoin_unique lawful.records fun a memberA b memberB first second => ?_
    simp only [decide_eq_true_eq] at first second
    obtain ⟨ofA, canonicalA, recordA, ownedA⟩ := lawful.owned a memberA
    obtain ⟨ofB, canonicalB, recordB, ownedB⟩ := lawful.owned b memberB
    have same : ofA = ofB := List.inj_on_of_nodup_map lawful.canonical canonicalA canonicalB (by rw [ownedA, ownedB, first, second])
    rw [← recordA, ← recordB, same]
  obtain ⟨canonical, canonicals⟩ := canonicals
  obtain ⟨result, results⟩ := results
  unfold joined
  rw [canonicals, results, List.flatMap_singleton]
  dsimp only
  obtain ⟨version, versions⟩ := versions (((canonical.bind CanonicalJob.providerBinding).bind fun binding =>
    textField binding "agentVersionId").orElse fun _ => textField job.quote "agentVersionId")
  rw [versions]
  exact ⟨jobRow tables job canonical version result, rfl, rfl, rfl⟩

def buyerRows (tables : Tables N) (buyer : Uuid) : List (JobRow N) :=
  (tables.commerceJobs.filter fun job => job.buyerUserId = some buyer).flatMap (joined tables)

def listing (tables : Tables N) (buyer : Uuid) : List (JobRow N) := Keyset.descending JobRow.key (buyerRows tables buyer)

omit [Integers N] [Host] in
theorem buyerRows_ids {tables : Tables N} (lawful : tables.Lawful) (buyer : Uuid) :
    (buyerRows tables buyer).map JobRow.commerceJobId =
      (tables.commerceJobs.filter fun job => job.buyerUserId = some buyer).map CommerceJob.id := by
  unfold buyerRows
  generalize tables.commerceJobs.filter (fun job => job.buyerUserId = some buyer) = jobs
  induction jobs with
  | nil => rfl
  | cons job jobs ih =>
    obtain ⟨row, single, same, _⟩ := joined_single lawful job
    rw [List.flatMap_cons, single, List.map_append, ih]
    simp [same]

omit [Integers N] [Host] in
theorem buyerRows_keys {tables : Tables N} (lawful : tables.Lawful) (buyer : Uuid) :
    ((buyerRows tables buyer).map JobRow.key).Nodup := by
  have ids : ((buyerRows tables buyer).map JobRow.commerceJobId).Nodup := by
    rw [buyerRows_ids lawful]
    exact lawful.jobs.sublist (List.filter_sublist.map _)
  refine List.Nodup.of_map (fun key => (ofLex key).2) ?_
  rw [List.map_map]
  have texts := ids.map Uuid.text_injective
  rwa [List.map_map] at texts

/-! ### Accepted rows -/

omit [Numbers N] in
theorem Draft.isValid_identity {draft : Draft N} (valid : draft.isValid = true) : draft.identity.isValid = true := by
  simp only [Draft.isValid, Bool.and_eq_true] at valid
  exact valid.1.1.1.1.1.1.1.1.1.1.1.1.1.2

omit [Numbers N] in
theorem Draft.isValid_with {draft : Draft N} (valid : draft.isValid = true) {identity : Identity N}
    (identityValid : identity.isValid = true) : ({ draft with identity } : Draft N).isValid = true := by
  have before := Draft.isValid_identity valid
  unfold Draft.isValid at valid ⊢
  rw [before] at valid
  rwa [identityValid]

omit [Numbers N] in
theorem buyerJobSummarySchema_twice {summary parsed : BuyerJobSummary N}
    (accepted : buyerJobSummarySchema summary = .ok parsed) : buyerJobSummarySchema parsed = .ok parsed := by
  unfold buyerJobSummarySchema at accepted
  split at accepted
  · next valid =>
    cases accepted
    have before := Draft.isValid_identity valid
    refine (if_pos (Draft.isValid_with valid (Identity.isValid_trimmed before))).trans ?_
    dsimp only
    rw [Identity.isValid_trim before]
  · cases accepted

omit [Numbers N] in
theorem buyerJobSummarySchema_keeps {summary parsed : BuyerJobSummary N}
    (accepted : buyerJobSummarySchema summary = .ok parsed) :
    parsed.commerceJobId = summary.commerceJobId ∧ Host.isDatetime summary.updatedAt = true := by
  unfold buyerJobSummarySchema at accepted
  split at accepted
  · next valid =>
    cases accepted
    simp only [Draft.isValid, Bool.and_eq_true] at valid
    exact ⟨rfl, valid.1.1.2⟩
  · cases accepted

omit [Numbers N] in
theorem toSummary_accepted {row : JobRow N} {now : Int} {summary : BuyerJobSummary N}
    (accepted : toSummary row now = .ok summary) :
    summary.commerceJobId = row.commerceJobId.text ∧ Host.isDatetime (Host.toISOString row.updatedAt) = true ∧
      iso row.updatedAt = .ok (Host.toISOString row.updatedAt) ∧ buyerJobSummarySchema summary = .ok summary := by
  unfold toSummary at accepted
  iterate 9 obtain ⟨_, _, accepted⟩ := bind_eq_ok.mp accepted
  obtain ⟨updatedAt, dated, accepted⟩ := bind_eq_ok.mp accepted
  have same : updatedAt = Host.toISOString row.updatedAt := by
    unfold iso isoText at dated
    split at dated
    · exact (Except.ok.inj dated).symm
    · cases dated
  subst same
  obtain ⟨id, valid⟩ := buyerJobSummarySchema_keeps accepted
  exact ⟨id, valid, dated, buyerJobSummarySchema_twice accepted⟩

/-! ### Following the cursors -/

def Leads (earlier : List (JobRow N)) (cursor : Option Text) : Prop :=
  match earlier.getLast? with
  | none => cursor = none
  | some row => ∃ text, cursor = some text ∧ encodeCursor row = .ok text ∧ ∃ now summary, toSummary row now = .ok summary

def Readable (tables : Tables N) (buyer : Uuid) : Prop :=
  ∀ job ∈ tables.commerceJobs, job.buyerUserId = some buyer → yearOne ≤ truncated job.updatedAt

variable {tables : Tables N} {buyer : Uuid}

omit [Integers N] [Host] in
theorem listing_readable (lawful : tables.Lawful) (readable : Readable tables buyer) {row : JobRow N}
    (member : row ∈ listing tables buyer) : yearOne ≤ row.updatedAt := by
  obtain ⟨job, shown, member⟩ := List.mem_flatMap.mp (Keyset.descending_perm.mem_iff.mp member)
  obtain ⟨found, owned⟩ := List.mem_filter.mp shown
  obtain ⟨single, rows, _, updatedAt⟩ := joined_single lawful job
  rw [rows] at member
  rw [List.mem_singleton.mp member, updatedAt]
  exact readable job found (of_decide_eq_true owned)

theorem cursorBound_leads [LawfulNumbers N] [LawfulHost] {earlier : List (JobRow N)} {cursor : Option Text}
    (leads : Leads earlier cursor) (readable : ∀ row ∈ earlier, yearOne ≤ row.updatedAt) :
    ∃ payload, decodeCursor N cursor = .ok payload ∧ cursorBound payload = .ok (earlier.getLast?.map JobRow.key) := by
  unfold Leads at leads
  split at leads
  · next last =>
    subst leads
    exact ⟨none, rfl, by rw [last]; rfl⟩
  · next row last =>
    obtain ⟨text, rfl, encoded, now, summary, accepted⟩ := leads
    obtain ⟨_, dated, _, _⟩ := toSummary_accepted accepted
    refine ⟨_, decodeCursor_encodeCursor encoded dated, ?_⟩
    have time := LawfulHost.timestamptz_toISOString dated (readable row (List.mem_of_getLast? last))
    unfold cursorBound
    dsimp only
    rw [time, readUuid_text, last]
    rfl

omit [Integers N] [Host] in
theorem selectRows_behind (lawful : tables.Lawful) {earlier rest : List (JobRow N)}
    (listed : listing tables buyer = earlier ++ rest) (limit : Nat) :
    selectRows tables buyer (earlier.getLast?.map JobRow.key) limit = rest.take limit := by
  rcases List.eq_nil_or_concat earlier with rfl | ⟨before, row, rfl⟩
  · rw [List.nil_append] at listed
    exact (Keyset.page_first limit).trans (congrArg _ listed)
  · rw [List.concat_eq_append] at listed ⊢
    rw [List.append_assoc] at listed
    rw [List.getLast?_concat]
    exact Keyset.page_behind (buyerRows_keys lawful buyer) listed limit

theorem listBuyerJobs_page [LawfulNumbers N] [LawfulHost] (lawful : tables.Lawful) (readable : Readable tables buyer)
    {earlier rest : List (JobRow N)} (listed : listing tables buyer = earlier ++ rest) {cursor : Option Text}
    (leads : Leads earlier cursor) (limit : Nat) (now : Int) :
    listBuyerJobs tables buyer.text ⟨cursor, limit⟩ now =
      (do
        let jobs ← (rest.take limit).mapM fun row => toSummary row now
        let nextCursor ← nextCursorOf (rest.take limit) (limit < rest.length)
        commerceJobsResponseSchema ⟨jobs, nextCursor⟩) := by
  obtain ⟨payload, decoded, bound⟩ := cursorBound_leads leads fun row member =>
    listing_readable lawful readable (listed ▸ List.mem_append_left _ member)
  have taken : (rest.take (limit + 1)).take limit = rest.take limit := by
    rw [List.take_take, Nat.min_eq_left (Nat.le_succ limit)]
  have more : (limit < (rest.take (limit + 1)).length) = (limit < rest.length) := by
    rw [List.length_take, eq_iff_iff]
    omega
  have step : ∀ {α β : Type} (a : α) (rest : α → Except Failure β), (Except.ok a >>= rest) = rest a := fun _ _ => rfl
  unfold listBuyerJobs
  simp only [if_pos buyer.valid, readUuid_text, orFailure, step, decoded, bound, selectRows_behind lawful listed, taken, more]

omit [Numbers N] [Integers N] [Host] in
theorem mapM_eq_ok_iff {α β : Type} {f : α → Except Failure β} {items : List α} : ∀ {results : List β},
    items.mapM f = .ok results ↔ List.Forall₂ (fun item result => f item = .ok result) items results := by
  induction items with
  | nil =>
    intro results
    rw [List.mapM_nil, List.forall₂_nil_left_iff]
    exact ⟨fun same => (Except.ok.inj same).symm, fun same => same ▸ rfl⟩
  | cons item items ih =>
    intro results
    rw [List.mapM_cons, bind_eq_ok, List.forall₂_cons_left_iff]
    constructor
    · rintro ⟨first, made, later⟩
      obtain ⟨rest, mapped, same⟩ := bind_eq_ok.mp later
      exact ⟨first, rest, made, ih.mp mapped, (Except.ok.inj same).symm⟩
    · rintro ⟨first, rest, made, mapped, rfl⟩
      exact ⟨first, made, bind_eq_ok.mpr ⟨rest, ih.mpr mapped, rfl⟩⟩

omit [Numbers N] [Integers N] [Host] in
theorem exists_mapM_eq_ok {α β : Type} {f : α → Except Failure β} {items : List α} :
    (∃ results, items.mapM f = .ok results) ↔ ∀ item ∈ items, ∃ result, f item = .ok result := by
  induction items with
  | nil => exact iff_of_true ⟨[], rfl⟩ fun _ member => nomatch member
  | cons item items ih =>
    rw [List.forall_mem_cons, ← ih]
    simp only [mapM_eq_ok_iff, List.forall₂_cons_left_iff]
    exact ⟨fun ⟨_, first, rest, made, mapped, _⟩ => ⟨⟨first, made⟩, rest, mapped⟩,
      fun ⟨⟨first, made⟩, rest, mapped⟩ => ⟨_, first, rest, made, mapped, rfl⟩⟩

theorem nextCursorOf_accepted {page : List (JobRow N)} {now : Int}
    (accepted : ∀ row ∈ page, ∃ summary, toSummary row now = .ok summary) (more : Bool) :
    ∃ cursor, nextCursorOf page more = .ok cursor ∧ (cursor = none ↔ page = [] ∨ more = false) ∧
      (cursor ≠ none → Leads page cursor) := by
  unfold nextCursorOf Leads
  cases last : page.getLast? with
  | none => exact ⟨none, rfl, iff_of_true rfl (.inl (List.getLast?_eq_none_iff.mp last)), fun some => absurd rfl some⟩
  | some row =>
    have member := List.mem_of_getLast? last
    obtain ⟨summary, made⟩ := accepted row member
    cases more with
    | false => exact ⟨none, rfl, iff_of_true rfl (.inr rfl), fun some => absurd rfl some⟩
    | true =>
      obtain ⟨_, _, dated, _⟩ := toSummary_accepted made
      have encoded : ∃ text, encodeCursor row = .ok text := by
        unfold encodeCursor
        rw [dated]
        exact ⟨_, rfl⟩
      obtain ⟨text, encoded⟩ := encoded
      refine ⟨some text, ?_, ?_, fun _ => ⟨text, rfl, encoded, now, summary, made⟩⟩
      · dsimp only
        rw [if_pos rfl, encoded]
        rfl
      · simp [List.ne_nil_of_mem member]

omit [Numbers N] in
theorem commerceJobsResponseSchema_accepted {page : List (JobRow N)} {jobs : List (BuyerJobSummary N)} {now : Int}
    (accepted : List.Forall₂ (fun row summary => toSummary row now = .ok summary) page jobs)
    (bounded : page.length ≤ commerceJobsMaximumLimit) (nextCursor : Option Text) :
    commerceJobsResponseSchema ⟨jobs, nextCursor⟩ = .ok ⟨jobs, nextCursor⟩ := by
  have again : List.Forall₂ (fun summary parsed => buyerJobSummarySchema summary = .ok parsed) jobs jobs := by
    induction accepted with
    | nil => exact .nil
    | cons made _ ih => exact .cons (toSummary_accepted made).2.2.2 (ih (Nat.le_of_succ_le bounded))
  rw [accepted.length_eq] at bounded
  exact bind_eq_ok.mpr ⟨jobs, mapM_eq_ok_iff.mpr again, if_pos bounded⟩

section
variable [LawfulNumbers N] [LawfulHost]

theorem listBuyerJobs_accepted (lawful : tables.Lawful) (readable : Readable tables buyer) {earlier rest : List (JobRow N)}
    (listed : listing tables buyer = earlier ++ rest) {cursor : Option Text} (leads : Leads earlier cursor) {limit : Nat}
    (bounded : limit ≤ commerceJobsMaximumLimit) {now : Int}
    (accepted : ∀ row ∈ rest.take limit, ∃ summary, toSummary row now = .ok summary) :
    ∃ response, listBuyerJobs tables buyer.text ⟨cursor, limit⟩ now = .ok response ∧
      List.Forall₂ (fun row summary => toSummary row now = .ok summary) (rest.take limit) response.jobs ∧
      (response.nextCursor = none ↔ rest.take limit = [] ∨ rest.length ≤ limit) ∧
      (response.nextCursor ≠ none → Leads (rest.take limit) response.nextCursor) := by
  obtain ⟨jobs, mapped⟩ := exists_mapM_eq_ok.mpr accepted
  obtain ⟨next, emitted, ends, leads'⟩ := nextCursorOf_accepted accepted (decide (limit < rest.length))
  have summaries := mapM_eq_ok_iff.mp mapped
  refine ⟨⟨jobs, next⟩, ?_, summaries, ?_, leads'⟩
  · rw [listBuyerJobs_page lawful readable listed leads]
    refine bind_eq_ok.mpr ⟨jobs, mapped, bind_eq_ok.mpr ⟨next, emitted, ?_⟩⟩
    exact commerceJobsResponseSchema_accepted summaries ((List.length_take_le _ _).trans bounded) next
  · rw [ends, decide_eq_false_iff_not, not_lt]

theorem listBuyerJobs_ok_iff (lawful : tables.Lawful) (readable : Readable tables buyer) {earlier rest : List (JobRow N)}
    (listed : listing tables buyer = earlier ++ rest) {cursor : Option Text} (leads : Leads earlier cursor) {limit : Nat}
    (bounded : limit ≤ commerceJobsMaximumLimit) (now : Int) :
    (∃ response, listBuyerJobs tables buyer.text ⟨cursor, limit⟩ now = .ok response) ↔
      ∀ row ∈ rest.take limit, ∃ summary, toSummary row now = .ok summary := by
  constructor
  · rintro ⟨response, returned⟩
    rw [listBuyerJobs_page lawful readable listed leads] at returned
    obtain ⟨jobs, mapped, _⟩ := bind_eq_ok.mp returned
    exact exists_mapM_eq_ok.mp ⟨jobs, mapped⟩
  · intro accepted
    obtain ⟨response, returned, _⟩ := listBuyerJobs_accepted lawful readable listed leads bounded accepted
    exact ⟨response, returned⟩

omit [LawfulNumbers N] [LawfulHost] in
theorem Leads.behind {earlier page : List (JobRow N)} {cursor : Option Text} (leads : Leads page cursor) (present : page ≠ []) :
    Leads (earlier ++ page) cursor := by
  unfold Leads at leads ⊢
  rwa [List.getLast?_append_of_ne_nil _ present]

def Summarizes (times : List Int) (row : JobRow N) (summary : BuyerJobSummary N) : Prop :=
  summary.commerceJobId = row.commerceJobId.text ∧ ∃ now ∈ times, toSummary row now = .ok summary

omit [LawfulNumbers N] [LawfulHost] [Numbers N] in
theorem summarizes_of {times : List Int} {now : Int} (member : now ∈ times) {rows : List (JobRow N)}
    {jobs : List (BuyerJobSummary N)} (accepted : List.Forall₂ (fun row summary => toSummary row now = .ok summary) rows jobs) :
    List.Forall₂ (Summarizes times) rows jobs :=
  accepted.imp fun _ _ made => ⟨(toSummary_accepted made).1, now, member, made⟩

/-- By induction on the requests: each page continues where the one before ended. -/
theorem followPages_accepted (lawful : tables.Lawful) (readable : Readable tables buyer) {limit : Nat} (positive : 0 < limit)
    (bounded : limit ≤ commerceJobsMaximumLimit) {times : List Int} : ∀ {earlier rest : List (JobRow N)} {cursor : Option Text},
    listing tables buyer = earlier ++ rest → Leads earlier cursor → rest.length < times.length →
      (∀ row ∈ rest, ∀ now ∈ times, ∃ summary, toSummary row now = .ok summary) →
      ∃ pages, followPages tables buyer.text limit times cursor = .ok pages ∧
        pages.getLast?.map CommerceJobsResponse.nextCursor = some none ∧
        List.Forall₂ (Summarizes times) rest (pages.flatMap CommerceJobsResponse.jobs) := by
  induction times with
  | nil => exact fun _ _ enough => absurd enough (Nat.not_lt_zero _)
  | cons now times ih =>
    intro earlier rest cursor listed leads enough accepted
    have accepted' : ∀ row ∈ rest.take limit, ∃ summary, toSummary row now = .ok summary :=
      fun row member => accepted row (List.mem_of_mem_take member) now List.mem_cons_self
    obtain ⟨response, returned, summaries, ends, leads'⟩ :=
      listBuyerJobs_accepted lawful readable listed leads bounded accepted'
    have shown : List.Forall₂ (Summarizes (now :: times)) (rest.take limit) response.jobs :=
      summarizes_of List.mem_cons_self summaries
    unfold followPages
    cases next : response.nextCursor with
    | none =>
      have all : rest.take limit = rest := by
        rcases ends.mp next with empty | short
        · rcases List.take_eq_nil_iff.mp empty with zero | nil
          · omega
          · rw [nil, List.take_nil]
        · exact List.take_of_length_le short
      refine ⟨[response], bind_eq_ok.mpr ⟨response, returned, ?_⟩, ?_, ?_⟩
      · rw [next]
        rfl
      · exact congrArg some next
      · rw [List.flatMap_singleton]
        rwa [all] at shown
    | some text =>
      rw [next] at ends leads'
      have more : rest.take limit ≠ [] ∧ limit < rest.length := by simpa using ends
      have listed' : listing tables buyer = (earlier ++ rest.take limit) ++ rest.drop limit := by
        rw [List.append_assoc, List.take_append_drop, listed]
      have fewer : (rest.drop limit).length < times.length := by
        rw [List.length_drop]
        rw [List.length_cons] at enough
        omega
      obtain ⟨pages, followed, last, later⟩ := ih listed' ((leads' (Option.some_ne_none _)).behind more.1) fewer
        fun row member time timed => accepted row (List.mem_of_mem_drop member) time (List.mem_cons_of_mem _ timed)
      refine ⟨response :: pages, bind_eq_ok.mpr ⟨response, returned, ?_⟩, ?_, ?_⟩
      · rw [next]
        exact bind_eq_ok.mpr ⟨pages, followed, rfl⟩
      · cases pages with
        | nil => cases last
        | cons page pages => rwa [List.getLast?_cons_cons]
      · rw [List.flatMap_cons, ← List.take_append_drop limit rest]
        exact List.rel_append shown (later.imp fun _ _ made => ⟨made.1, made.2.imp fun _ both => both.imp_left (List.mem_cons_of_mem _)⟩)

end

end

/-! ### Samples -/

def epochText : Text := units "1970-01-01T00:00:00.000Z"

/-- A host that knows the text of the first date only. -/
instance sampleHost : Host where
  toISOString time := if time = 0 then epochText else []
  isDatetime text := text == epochText
  dateParse text := if text = epochText then some 0 else none
  toBase64Url text := text
  ofBase64Url text := text
  timestamptz text := if text = epochText then some 0 else none

instance : LawfulHost where
  toISOString_narrow := by
    intro time
    simp only [Host.toISOString]
    split
    · exact narrow_of_all (by decide)
    · exact fun _ member => nomatch member
  timestamptz_toISOString := by
    intro time dated _
    by_cases epoch : time = 0
    · subst epoch
      decide
    · simp only [Host.toISOString, if_neg epoch] at dated
      exact absurd dated (by decide)
  ofBase64Url_toBase64Url := fun _ => rfl

def sampleBuyer : Uuid := ⟨units "00000000-0000-4000-8000-00000000000b", by decide, by decide⟩

def sampleQuote : Value SmallNumber :=
  .obj [(units "identity", .obj [(units "namespace", str (units "eip155")), (units "chainId", num (some 56)),
      (units "identityRegistry", str (units "0x00000000000000000000000000000000000000a1")), (units "agentId", str (units "7"))]),
    (units "agentVersionId", str (units "00000000-0000-4000-8000-0000000000a7")), (units "agentVersion", num (some 1))]

def sampleJob (id : Uuid) (quote : Value SmallNumber) : CommerceJob SmallNumber where
  id
  erc8183JobId := units "pending"
  buyerUserId := some sampleBuyer
  quote
  price := units "5"
  status := units "draft"
  createdAt := 0
  updatedAt := 999

def sampleId : Uuid := ⟨units "00000000-0000-4000-8000-000000000001", by decide, by decide⟩

def otherId : Uuid := ⟨units "00000000-0000-4000-8000-000000000002", by decide, by decide⟩

def sampleTables (jobs : List (CommerceJob SmallNumber)) : Tables SmallNumber := ⟨jobs, [], [], [], [], []⟩

theorem sampleTables_lawful {jobs : List (CommerceJob SmallNumber)} (distinct : (jobs.map CommerceJob.id).Nodup) :
    (sampleTables jobs).Lawful :=
  ⟨distinct, .nil, .nil, .nil, fun _ member => nomatch member⟩

theorem sampleTables_readable {jobs : List (CommerceJob SmallNumber)} (late : ∀ job ∈ jobs, 0 ≤ job.updatedAt) :
    Readable (sampleTables jobs) sampleBuyer := by
  intro job member _
  have later := late job member
  unfold yearOne truncated
  omega

def singleTables : Tables SmallNumber := sampleTables [sampleJob sampleId sampleQuote]

def brokenTables : Tables SmallNumber := sampleTables [sampleJob sampleId (.leaf .null), sampleJob otherId sampleQuote]

end Bnbera.Seller.JobList
