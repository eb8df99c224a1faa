import Bnbera.Ingestion.Normalize
import Bnbera.Interleaving.Relying

namespace Bnbera.Scan

open Ingestion (IngestionFailure IdentityInput IdentityCandidate NormalizedCandidate isWithin hasControlCharacter inputInvalid
  normalizeSourceReference normalizeIdentity normalizeCandidate)
open Interleaving

inductive ScanErrorCode
  | scanTimeout
  | scanUnavailable
  | scanRateLimited
  | scanCircuitOpen
  | scanAuthFailed
  | scanContractInvalid
  | scanConfigInvalid
deriving DecidableEq

/-- The `AppError`s of the adapter, and everything that the normaliser may throw. -/
inductive ScanFailure
  | scan (code : ScanErrorCode) (safeMessage nextAction : String) (retriable : Bool)
  | ingestion (failure : IngestionFailure)
deriving DecidableEq

def scanError (code : ScanErrorCode) (safeMessage nextAction : String) (retriable : Bool := false) : ScanFailure :=
  .scan code safeMessage nextAction retriable

def normalizing {α : Type} (result : Except IngestionFailure α) : Except ScanFailure α := result.mapError .ingestion

def maxPageSize : Int := 100

def shallowWindow : Int := 10000

structure ScanFilters where
  chainId : Option Int
  isTestnet : Option Bool
  isActive : Option String
  supportedProtocol : Option String
  search : Option String
  sortBy : Option String
  sortOrder : Option String
deriving DecidableEq

structure EightHundredFourScanQuery where
  offset : Option Int
  cursor : Option String
  limit : Option Int
  filters : ScanFilters
deriving DecidableEq

inductive ScanRoute
  | agents
  | agentsLatest
deriving DecidableEq

structure EightHundredFourScanPage where
  items : List Json
  nextCursor : Option String
  nextOffset : Option Int
  total : Nat
  limit : Nat
  offset : Nat
  route : ScanRoute

inductive PagePosition
  | offset (value : Int)
  | cursor (text : String)
deriving DecidableEq

/-- The parameters of a request to `/agents`. -/
structure ListRequest where
  limit : Int
  position : PagePosition
  filters : ScanFilters

/-- The parameters of a request to `/agents/latest`. -/
structure LatestRequest where
  limit : Int
  offset : Int
  chainId : Option Int
  isTestnet : Option Bool

inductive ScanRequest
  | agents (request : ListRequest)
  | latest (request : LatestRequest)

def boundedInteger (value : Option Int) (fallback minimum maximum : Int) (field : String) : Except ScanFailure Int := do
  let result := value.getD fallback
  refuseIf (result < minimum ∨ maximum < result) (scanError .scanConfigInvalid
    s!"The 8004scan {field} is outside its safe bound." "fix_scan_configuration")
  return result

def boundedText (value : Option String) (max : Nat) (field : String) : Except ScanFailure (Option String) :=
  match value with
  | none => .ok none
  | some text => do
    let normalized := trim text
    refuseIf (isWithin 1 max normalized = false ∨ hasControlCharacter normalized)
      (scanError .scanConfigInvalid s!"The 8004scan {field} is invalid." "fix_scan_query")
    return some normalized

/-- `queryNumber(chainId, "chain ID", 2_147_483_647)` -/
def queryChainId : Option Int → Except ScanFailure (Option Int)
  | none => .ok none
  | some chainId => some <$> boundedInteger (some chainId) 0 0 2147483647 "chain ID"

/-- `/^[0-9]+$/u.test(text)` -/
def isNumeric (text : String) : Bool := !text.toList.isEmpty && text.toList.all isDigit

def ScanFilters.check (filters : ScanFilters) : Except ScanFailure ScanFilters := do
  let chainId ← queryChainId filters.chainId
  refuseIf (∃ isActive ∈ filters.isActive, isActive ∉ ["true", "false", "any"])
    (scanError .scanConfigInvalid "Invalid availability filter." "fix_scan_query")
  let supportedProtocol ← boundedText filters.supportedProtocol 128 "supported protocol"
  let search ← boundedText filters.search 200 "search"
  return { filters with chainId := chainId, supportedProtocol := supportedProtocol, search := search }

/-- The position that `/agents` is asked for. -/
def EightHundredFourScanQuery.position (query : EightHundredFourScanQuery) : Except ScanFailure PagePosition :=
  match query.cursor with
  | some cursor => do
    let text ← boundedText (some cursor) 1024 "cursor"
    return .cursor (text.getD "")
  | none => .offset <$> boundedInteger query.offset 0 0 shallowWindow "offset"

structure ListResponse where
  items : List Json
  total : Nat
  limit : Nat
  offset : Nat
  nextCursor : Option String
  hasMore : Option Bool

/-- `z.number().int().nonnegative()` on a number below 10^21, which is shown by its digits. -/
def wholeOf : Option Json → Option Nat
  | some (.num text) => if isDecimal text then some (decimalValue text) else none
  | _ => none

def itemsOf : Option Json → Option (List Json)
  | some (.arr items) => some items
  | _ => none

/-- `z.string().trim().min(1).max(1024).nullable().optional()` -/
def cursorOf : Option Json → Option (Option String)
  | none | some .null => some none
  | some (.str text) => if isWithin 1 1024 (trim text) then some (some (trim text)) else none
  | _ => none

def flagOf : Option Json → Option (Option Bool)
  | none => some none
  | some (.bool value) => some (some value)
  | _ => none

/-- `officialListResponseSchema.safeParse(body)` -/
def listResponse : Json → Option ListResponse
  | .obj fields => do
    let items ← itemsOf (fieldOf fields "items")
    let total ← wholeOf (fieldOf fields "total")
    let limit ← wholeOf (fieldOf fields "limit")
    let offset ← wholeOf (fieldOf fields "offset")
    let nextCursor ← cursorOf (fieldOf fields "next_cursor")
    let hasMore ← flagOf (fieldOf fields "has_more")
    if 0 < limit ∧ (limit : Int) ≤ maxPageSize then return ⟨items, total, limit, offset, nextCursor, hasMore⟩ else none
  | _ => none

def ListResponse.nextOffset (page : ListResponse) : Option Int :=
  if page.offset + page.limit < page.total then some (page.offset + page.limit) else none

/-- `mapPage`; only the list route gives cursors. -/
def mapPage (body : Json) (route : ScanRoute) : Except ScanFailure EightHundredFourScanPage :=
  match listResponse body with
  | none => .error (scanError .scanContractInvalid "The 8004scan page does not match the reviewed OpenAPI response."
      "review_scan_contract")
  | some page =>
    match if route = .agents then page.hasMore else none with
    | some hasMore => do
      refuseIf (hasMore = true ∧ page.nextCursor = none)
        (scanError .scanContractInvalid "The provider omitted the next traversal cursor." "review_scan_contract")
      return ⟨page.items, if hasMore then page.nextCursor else none, none, page.total, page.limit, page.offset, route⟩
    | none => return ⟨page.items, page.nextOffset.map toString, page.nextOffset, page.total, page.limit, page.offset, route⟩

def parseOffset (query : EightHundredFourScanQuery) : Except ScanFailure Int :=
  match query.offset, query.cursor with
  | some offset, _ => boundedInteger (some offset) 0 0 10000000 "offset"
  | none, none => .ok 0
  | none, some cursor =>
    if trim cursor = "" then .ok 0
    else do
      refuseIf (isNumeric (trim cursor) = false) (scanError .scanConfigInvalid
        "The current 8004scan API uses a numeric offset, not a cursor." "fix_scan_pagination")
      boundedInteger (some (decimalValue (trim cursor))) 0 0 10000000 "offset"

structure MappedEightHundredFourScanCandidate where
  identity : IdentityInput
  sourceReference : String
  observedAt : Option Int
  rawResponseDigest : Option String
  metadata : Option Json
  services : Option (List Json)
  capabilityManifest : Option Json

/-- What the adapter calls: `getJson` of the HTTP client, and the clock. -/
structure ScanPort (m : Type → Type) where
  getJson : ScanRequest → ExceptT ScanFailure m Json
  now : m Int

section
variable {m : Type → Type} [Monad m] (port : ScanPort m)

/-- `listCandidates` on an offset within the shallow window, or on a cursor. -/
def listPage (query : EightHundredFourScanQuery) : ExceptT ScanFailure m EightHundredFourScanPage := do
  let limit ← liftM (boundedInteger query.limit 20 1 maxPageSize "page size")
  let position ← liftM query.position
  let filters ← liftM query.filters.check
  let body ← port.getJson (.agents ⟨limit, position, filters⟩)
  liftM (mapPage body .agents)

def bridgeOffset (query : EightHundredFourScanQuery) (offset limit : Int) : ExceptT ScanFailure m EightHundredFourScanPage := do
  let previousOffset := offset - limit
  liftM (refuseIf (previousOffset < 0 ∨ shallowWindow < previousOffset)
    (scanError .scanConfigInvalid "The legacy offset cannot be bridged safely." "fix_scan_pagination"))
  let previous ← listPage port { query with offset := some previousOffset }
  match previous.nextOffset, previous.nextCursor with
  | none, some nextCursor => listPage port { query with offset := none, cursor := some nextCursor }
  | _, _ => throw (scanError .scanContractInvalid "The provider omitted the handoff cursor." "review_scan_contract")

def listCandidates (query : EightHundredFourScanQuery) : ExceptT ScanFailure m EightHundredFourScanPage := do
  liftM (refuseIf (query.cursor ≠ none ∧ query.offset ≠ none)
    (scanError .scanConfigInvalid "Offset and cursor cannot be combined." "fix_scan_pagination"))
  let limit ← liftM (boundedInteger query.limit 20 1 maxPageSize "page size")
  match query.offset with
  | some offset => if shallowWindow < offset then bridgeOffset port query offset limit else listPage port query
  | none => listPage port query

def listLatestCandidates (query : EightHundredFourScanQuery) : ExceptT ScanFailure m EightHundredFourScanPage := do
  let offset ← liftM (parseOffset query)
  let limit ← liftM (boundedInteger query.limit 20 1 maxPageSize "page size")
  let chainId ← liftM (queryChainId query.filters.chainId)
  let body ← port.getJson (.latest ⟨limit, offset, chainId, query.filters.isTestnet⟩)
  liftM (mapPage body .agentsLatest)

/-- `latestFallbackErrorCodes` -/
def shouldUseLatestFallback : ScanFailure → Bool
  | .scan code .. => code ∈ [.scanTimeout, .scanUnavailable, .scanRateLimited, .scanCircuitOpen]
  | .ingestion _ => false

/-- What `fetchPage` answers. -/
structure CandidatePage where
  candidates : List NormalizedCandidate
  nextCursor : Option String
  nextOffset : Option Int
  total : Nat

variable (mapper : Json → Except ScanFailure MappedEightHundredFourScanCandidate) (normalizedIngestionVersion : String)

def candidateOf (route : ScanRoute) (now : Int) (mapped : MappedEightHundredFourScanCandidate) :
    Except IngestionFailure NormalizedCandidate := do
  let sourceReference ← normalizeSourceReference mapped.sourceReference
  let routedSourceReference ←
    if route = .agents then pure sourceReference else normalizeSourceReference (sourceReference ++ "|route=agents/latest")
  let _ ← normalizeIdentity mapped.identity
  normalizeCandidate ⟨mapped.identity, some .scan8004, routedSourceReference, some (mapped.observedAt.getD now),
    mapped.rawResponseDigest, normalizedIngestionVersion, mapped.metadata, mapped.services, mapped.capabilityManifest⟩

/-- One round of the loop of `normalizePage`. -/
def normalizeItem (route : ScanRoute) (raw : Json) : ExceptT ScanFailure m NormalizedCandidate := do
  let mapped ← liftM (mapper raw)
  let now ← ExceptT.lift port.now
  liftM (normalizing (candidateOf normalizedIngestionVersion route now mapped))

def normalizePage (page : EightHundredFourScanPage) (route : ScanRoute) (requestedLimit : Int) :
    ExceptT ScanFailure m CandidatePage := do
  liftM (refuseIf (requestedLimit < page.items.length)
    (ScanFailure.ingestion (inputInvalid "The 8004scan response has no bounded candidate list." "retry_scan")))
  let candidates ← page.items.mapM (normalizeItem port mapper normalizedIngestionVersion route)
  return {
    candidates := candidates
    nextCursor := page.nextCursor <|> page.nextOffset.map toString
    nextOffset := page.nextOffset <|> (page.nextCursor.filter isNumeric).map fun cursor => (decimalValue cursor : Int)
    total := page.total }

def fetchPage (query : EightHundredFourScanQuery) : ExceptT ScanFailure m CandidatePage := do
  let listed ← tryCatch (do return (← listCandidates port query, ScanRoute.agents)) fun failure =>
    if shouldUseLatestFallback failure then do return (← listLatestCandidates port query, ScanRoute.agentsLatest)
    else throw failure
  normalizePage port mapper normalizedIngestionVersion listed.1 listed.2 (query.limit.getD maxPageSize)

end

inductive ScanCall
  | getJson (request : ScanRequest)
  | clock

abbrev ScanCall.Answer : ScanCall → Type
  | getJson _ => Except ScanFailure Json
  | clock => Int

def scanPort : ScanPort (Program ScanCall ScanCall.Answer) where
  getJson request := ExceptT.mk (.call (.getJson request) .done)
  now := .call .clock .done

structure EightHundredFourScanAdapter where
  mapper : Json → Except ScanFailure MappedEightHundredFourScanCandidate
  normalizedIngestionVersion : String

def EightHundredFourScanAdapter.fetchPage (adapter : EightHundredFourScanAdapter) (query : EightHundredFourScanQuery) :
    ExceptT ScanFailure (Program ScanCall ScanCall.Answer) CandidatePage :=
  Scan.fetchPage scanPort adapter.mapper adapter.normalizedIngestionVersion query

def CandidatePage.next (page : CandidatePage) (base : EightHundredFourScanQuery) : Option EightHundredFourScanQuery :=
  match page.nextOffset, page.nextCursor with
  | some offset, _ => some { base with offset := some offset, cursor := none }
  | none, some cursor => some { base with offset := none, cursor := some cursor }
  | none, none => none

/-- What `iterate` is doing. -/
inductive IteratePhase
  | fetching (program : Program ScanCall ScanCall.Answer (Except ScanFailure CandidatePage))
  | yielding (rest : List NormalizedCandidate) (next : Option EightHundredFourScanQuery)
  | ended
  | thrown (failure : ScanFailure)

structure Iteration where
  yielded : List NormalizedCandidate
  phase : IteratePhase

def EightHundredFourScanAdapter.iterate (adapter : EightHundredFourScanAdapter) (query : EightHundredFourScanQuery) : Iteration :=
  ⟨[], .fetching (adapter.fetchPage query).run⟩

inductive IterateEvent
  | called (op : ScanCall) (answer : op.Answer)
  | moved

inductive IterateStep (adapter : EightHundredFourScanAdapter) (base : EightHundredFourScanQuery) :
    Iteration → IterateEvent → Iteration → Prop
  | called {yielded op next answer} : IterateStep adapter base ⟨yielded, .fetching (.call op next)⟩ (.called op answer)
      ⟨yielded, .fetching (next answer)⟩
  | failed {yielded failure} : IterateStep adapter base ⟨yielded, .fetching (.done (.error failure))⟩ .moved ⟨yielded, .thrown failure⟩
  | fetched {yielded page} : IterateStep adapter base ⟨yielded, .fetching (.done (.ok page))⟩ .moved
      ⟨yielded, .yielding page.candidates (page.next base)⟩
  | yielded {yielded candidate rest next} : IterateStep adapter base ⟨yielded, .yielding (candidate :: rest) next⟩ .moved
      ⟨yielded ++ [candidate], .yielding rest next⟩
  | turned {yielded query} : IterateStep adapter base ⟨yielded, .yielding [] (some query)⟩ .moved
      ⟨yielded, .fetching (adapter.fetchPage query).run⟩
  | finished {yielded} : IterateStep adapter base ⟨yielded, .yielding [] none⟩ .moved ⟨yielded, .ended⟩

end Bnbera.Scan
