import Bnbera.Jobs.Law
import Bnbera.Interleaving.Pool
import Bnbera.Reservations.Moves

namespace Bnbera.Reservations

open Interleaving

section
variable [Sha256] {store : ReservationStore} {s : ReservationState} {row other : ReservationRow} {rows : List ReservationRow}
  {request : QuoteReservation} {answers : Transacted}

/-- A row that agrees with its snapshot, which was taken on the chain of the deployment. -/
structure Faithful (store : ReservationStore) (row : ReservationRow) : Prop where
  price : row.price = row.quote.priceAtomic
  digest : row.taskInputDigest = row.quote.taskDigest
  task : row.quote.taskDigest = digestTask row.quote.task
  external : row.quote.externalSeller.isSome = true ↔ store.pin.chainId.number = 56

theorem Faithful.parsed (faithful : Faithful store row) : parseReservationRow row = .ok row.quote := by
  refine refuseIf_bind_eq_ok.mpr ⟨?_, rfl⟩
  rintro (price | digest)
  · exact price faithful.price
  · exact digest (congrArg lower faithful.digest)

structure Kept (store : ReservationStore) (s : ReservationState) : Prop where
  listings : ∀ id row, s.listings id = some row → row.agentId = id
  faithful : ∀ row ∈ s.rows, Faithful store row
  apart : ∀ row ∈ s.rows, ∀ other ∈ s.rows, SameTask row other → row.createdAt = other.createdAt → row = other
  stale : ∀ row, Superseded s row → ¬Current store s.listings (s.now / 1000) row

theorem Drafted.faithful {now : Nat} (drafted : Drafted store request now) :
    Faithful store (ReservationStore.inserted request) ∧ requestedTask (ReservationStore.inserted request) = request.task := by
  obtain ⟨read, ⟨quoteId, identifier, offer, offered, made⟩, _⟩ := drafted
  have chain := rowToListing_chain read
  refine ⟨⟨rfl, rfl, ?_, ?_⟩, ?_⟩
  · show request.snapshot.taskDigest = digestTask request.snapshot.task
    rw [made]
    rfl
  · show request.snapshot.externalSeller.isSome = true ↔ _
    have main : request.listing.identity.chainId.value = 56 ↔ store.pin.chainId.number = 56 := by
      rw [chain]
      omega
    rw [made, ← main, ← offered]
    unfold ReservationStore.snapshot
    rw [Option.isSome_map]
  · show requestedTask (ReservationStore.inserted request) = _
    unfold requestedTask ReservationStore.inserted
    rw [made]
    cases offer with
    | none => rfl
    | some offer => rfl

/-- A row of the task that is requested matches, where it is of the version that is listed. -/
theorem Drafted.matches {now : Nat} (drafted : Drafted store request now) (faithful : Faithful store row)
    (same : SameTask row (ReservationStore.inserted request)) (unpaid : Unpaid row)
    (version : row.quote.agentVersionId = request.listing.agentVersionId) : ReservationStore.Matches request row := by
  obtain ⟨buyer, agent, task⟩ := same
  obtain ⟨inserted, requested⟩ := drafted.faithful
  rw [requested] at task
  refine ⟨buyer, agent, ?_, unpaid⟩
  cases seller : row.quote.externalSeller with
  | some seller' =>
    refine .inr ⟨⟨seller', rfl, ?_⟩, version⟩
    rw [← task, requestedTask, seller]
  | none =>
    have internal : (ReservationStore.inserted request).quote.externalSeller = none := by
      by_contra present
      have main := inserted.external.mp (Option.isSome_iff_ne_none.mpr present)
      have some := faithful.external.mpr main
      rw [seller] at some
      cases some
    refine .inl ?_
    have text : row.quote.task = request.snapshot.task := by
      have mine : requestedTask row = row.quote.task := by rw [requestedTask, seller]
      have its : requestedTask (ReservationStore.inserted request) = request.snapshot.task := by
        rw [requestedTask, internal]
        rfl
      rw [← mine, ← its, requested, task]
    rw [faithful.digest, faithful.task, text]
    exact inserted.task.symm

/-- Where a transaction adds a row, none of its task was current. -/
theorem Kept.none_current (kept : Kept store s) (drafted : Drafted store request s.now) (settled : Settled s request answers)
    (missed : ∀ existing, ReservationStore.newest (s.rows.filter (ReservationStore.Matches request ·)) = some existing →
      store.reuse request answers existing = .ok none)
    (member : row ∈ s.rows) (unpaid : Unpaid row) (same : SameTask row (ReservationStore.inserted request)) :
    ¬Current store s.listings (s.now / 1000) row := by
  intro current
  obtain ⟨listed, found, listing, read, still⟩ := current
  have mine : s.listings row.providerAgentId = some request.listingRow := by
    rw [same.2.1]
    exact settled.listed
  cases mine.symm.trans found
  cases drafted.read.symm.trans read
  have again : Current store s.listings (s.now / 1000) row := ⟨_, mine, _, drafted.read, still⟩
  obtain ⟨_, refound, _, reread, version⟩ := again.version
  cases mine.symm.trans refound
  cases drafted.read.symm.trans reread
  have fits := drafted.matches (kept.faithful row member) same unpaid version
  have candidate : row ∈ s.rows.filter (ReservationStore.Matches request ·) :=
    List.mem_filter.mpr ⟨member, decide_eq_true fits⟩
  obtain ⟨existing, first⟩ := newest_isSome candidate
  obtain ⟨chosen, latest⟩ := newest_eq_some first
  obtain ⟨present, matched⟩ := List.mem_filter.mp chosen
  obtain ⟨buyer, agent, how, unpaid'⟩ := of_decide_eq_true matched
  have requested := drafted.faithful.2
  have task : requestedTask existing = request.task := by
    rcases how with digest | ⟨⟨seller, external, task⟩, _⟩
    · exact settled.distinct existing present buyer agent digest
    · rw [← task, requestedTask, Option.mem_def.mp external]
  have sameTask : SameTask row existing := by
    refine ⟨same.1.trans buyer.symm, same.2.1.trans agent.symm, ?_⟩
    rw [same.2.2, requested, task]
  have newer := latest row candidate
  have one : row = existing := by
    refine kept.apart row member existing present sameTask (Nat.le_antisymm newer ?_)
    by_contra older
    exact kept.stale row ⟨member, unpaid, existing, present, unpaid', sameTask, Nat.lt_of_not_le older⟩ again
  subst one
  exact reuse_current (kept.faithful row member).parsed (assertQuoteStillCurrent_earlier still drafted.past) settled.confirmed
    (missed row first)

theorem Kept.reserved (kept : Kept store s) (drafted : Drafted store request s.now) (settled : Settled s request answers) :
    Kept store { s with rows := (store.reserve request answers s.rows).2 } := by
  rcases @reserve_rows store s.rows request answers with same | ⟨same, missed⟩
  · rw [same]
    exact kept
  · rw [same]
    obtain ⟨faithful, requested⟩ := drafted.faithful
    have later : ∀ row ∈ s.rows, SameTask row (ReservationStore.inserted request) →
        row.createdAt < (ReservationStore.inserted request).createdAt := by
      intro row member task
      exact settled.later row member task.1 task.2.1 (task.2.2.trans requested)
    refine ⟨kept.listings, fun row member => ?_, fun row member other present task created => ?_, ?_⟩
    · rcases List.mem_append.mp member with old | new
      · exact kept.faithful row old
      · cases List.mem_singleton.mp new
        exact faithful
    · rcases List.mem_append.mp member with old | new
      · rcases List.mem_append.mp present with also | last
        · exact kept.apart row old other also task created
        · cases List.mem_singleton.mp last
          have before := later row old task
          omega
      · cases List.mem_singleton.mp new
        rcases List.mem_append.mp present with also | last
        · have before := later other also ⟨task.1.symm, task.2.1.symm, task.2.2.symm⟩
          omega
        · cases List.mem_singleton.mp last
          rfl
    · rintro row ⟨member, unpaid, next, present, unpaid', task, created⟩
      rcases List.mem_append.mp member with old | new
      · rcases List.mem_append.mp present with also | last
        · exact kept.stale row ⟨old, unpaid, next, also, unpaid', task, created⟩
        · cases List.mem_singleton.mp last
          exact kept.none_current drafted settled missed old unpaid task
      · cases List.mem_singleton.mp new
        rcases List.mem_append.mp present with also | last
        · have before := later next also ⟨task.1.symm, task.2.1.symm, task.2.2.symm⟩
          omega
        · cases List.mem_singleton.mp last
          exact absurd created (Nat.lt_irrefl _)

omit [Sha256] in
theorem claimedRow_cases (commerceJobId buyerUserId : String) (row : ReservationRow) :
    claimedRow commerceJobId buyerUserId row = row ∨
      row.status = .draft ∧ claimedRow commerceJobId buyerUserId row = { row with status := .negotiating } := by
  unfold claimedRow
  split
  · rename_i claims
    exact .inr ⟨claims.2.2, rfl⟩
  · exact .inl rfl

theorem Kept.claimed (kept : Kept store s) (commerceJobId buyerUserId : String) :
    Kept store { s with rows := s.rows.map (claimedRow commerceJobId buyerUserId) } := by
  have quote : ∀ row, (claimedRow commerceJobId buyerUserId row).quote = row.quote := fun row => by
    rcases claimedRow_cases commerceJobId buyerUserId row with same | ⟨_, same⟩ <;> rw [same]
  have agent : ∀ row, (claimedRow commerceJobId buyerUserId row).providerAgentId = row.providerAgentId := fun row => by
    rcases claimedRow_cases commerceJobId buyerUserId row with same | ⟨_, same⟩ <;> rw [same]
  have created : ∀ row, (claimedRow commerceJobId buyerUserId row).createdAt = row.createdAt := fun row => by
    rcases claimedRow_cases commerceJobId buyerUserId row with same | ⟨_, same⟩ <;> rw [same]
  have unpaid : ∀ row, Unpaid (claimedRow commerceJobId buyerUserId row) → Unpaid row := fun row claims => by
    rcases claimedRow_cases commerceJobId buyerUserId row with same | ⟨draft, _⟩
    · rwa [same] at claims
    · exact .inl draft
  have task : ∀ row other, SameTask (claimedRow commerceJobId buyerUserId row) (claimedRow commerceJobId buyerUserId other) →
      SameTask row other := fun row other same => by
    rcases claimedRow_cases commerceJobId buyerUserId row with first | ⟨_, first⟩ <;>
      rcases claimedRow_cases commerceJobId buyerUserId other with second | ⟨_, second⟩ <;> rw [first, second] at same <;> exact same
  refine ⟨kept.listings, fun row member => ?_, fun row member other present same at_ => ?_, ?_⟩
  · obtain ⟨before, old, rfl⟩ := List.mem_map.mp member
    have faithful := kept.faithful before old
    rcases claimedRow_cases commerceJobId buyerUserId before with same | ⟨_, same⟩
    · rw [same]
      exact faithful
    · rw [same]
      exact ⟨faithful.price, faithful.digest, faithful.task, faithful.external⟩
  · obtain ⟨before, old, rfl⟩ := List.mem_map.mp member
    obtain ⟨next, also, rfl⟩ := List.mem_map.mp present
    rw [created, created] at at_
    exact congrArg _ (kept.apart before old next also (task before next same) at_)
  · rintro row ⟨member, lives, next, present, alive, same, later⟩ current
    obtain ⟨before, old, rfl⟩ := List.mem_map.mp member
    obtain ⟨after, also, rfl⟩ := List.mem_map.mp present
    rw [created, created] at later
    refine kept.stale before ⟨old, unpaid before lives, after, also, unpaid after alive, task before after same, later⟩ ?_
    obtain ⟨listed, found, listing, read, still⟩ := current
    rw [agent] at found
    rw [quote] at still
    exact ⟨listed, found, listing, read, still⟩

omit [Sha256] in
theorem claimReservation_rows {commerceJobId buyerUserId : String} {now : Nat} :
    (claimReservation rows commerceJobId buyerUserId now).2 = rows ∨
      (claimReservation rows commerceJobId buyerUserId now).2 = rows.map (claimedRow commerceJobId buyerUserId) := by
  unfold claimReservation
  split
  · exact .inl rfl
  · split
    · exact .inl rfl
    · exact .inr rfl

theorem Kept.moved {after : ReservationState} (kept : Kept store s) (moved : Moved store (orderly store) s after) :
    Kept store after := by
  cases moved with
  | same => exact kept
  | reserved drafted settled => exact kept.reserved drafted settled
  | @claimed commerceJobId buyerUserId =>
    rcases @claimReservation_rows s.rows commerceJobId buyerUserId s.now with same | same
    · rw [same]
      exact kept
    · rw [same]
      exact kept.claimed commerceJobId buyerUserId

theorem Kept.environment {after : ReservationState} (kept : Kept store s)
    (moved : (reservationSystem store (orderly store)).environment s after) : Kept store after := by
  obtain ⟨rows, later, listings, change⟩ := moved
  have superseded : ∀ row, Superseded after row → Superseded s row := by
    intro row superseded
    unfold Superseded at superseded
    rw [rows] at superseded
    exact superseded
  refine ⟨listings, rows ▸ kept.faithful, rows ▸ kept.apart, fun row newer current => ?_⟩
  have before := current.earlier (Nat.div_le_div_right later)
  rcases change with same | onward
  · rw [same] at before
    exact kept.stale row (superseded row newer) before
  · exact onward row (superseded row newer) before

namespace ReservationPool

variable {pool : ReservationPool}

theorem Reach.kept (reach : pool.Reach store (orderly store)) : Kept store pool.state := by
  refine reservation_contract.invariant reach (fun s initial => ?_) (fun _ _ _ moved kept => kept.moved moved)
    fun _ _ moved kept => kept.environment moved
  obtain ⟨rows, listings⟩ := initial
  refine ⟨listings, fun row member => ?_, fun row member => ?_, fun row superseded => ?_⟩
  · rw [rows] at member
    exact absurd member List.not_mem_nil
  · rw [rows] at member
    exact absurd member List.not_mem_nil
  · have member := superseded.1
    rw [rows] at member
    exact absurd member List.not_mem_nil

end ReservationPool

end

def mayReserve (s : ReservationState) (request : QuoteReservation) : Prop := s.rows = [] ∧ s.Listed request.listingRow

instance (s : ReservationState) (request : QuoteReservation) : Decidable (mayReserve s request) :=
  inferInstanceAs (Decidable (_ ∧ _))

def unrestricted : Circumstances where
  reserve _ _ _ := True
  relist _ _ := True

def sampleIds (count : Nat) : Uuid :=
  if count = 0 then ⟨_, firstUuid_ok⟩
  else if count = 1 then ⟨_, secondUuid_ok⟩
  else ⟨"00000000-0000-4000-8000-000000000003", by decide +kernel⟩

def content (result : Except Failure CommerceQuoteSnapshot) : Transacted := ⟨.ok (), .ok (), .ok (), result⟩

/-- The answers of a run that is played out: one agent is listed, and ids are drawn in order. -/
def performReservation [Sha256] (store : ReservationStore) (restricted : Bool) :
    Interleaving.Performance ReservationRequest ReservationCall ReservationCall.Answer ReservationState := fun _ _ op s =>
  match op with
  | .readListing identifier =>
    match s.listings "agent-1" with
    | some row => if s.Listed row ∧ (erc8004IdentityKey row.identity = identifier ∨ row.slug = some identifier) then some (some row, s) else none
    | none => none
  | .admitReferenceTask _ => some (.ok (), s)
  | .resolveReadiness _ => some (.ok (), s)
  | .negotiate _ _ => none
  | .clock => some (s.now, s)
  | .randomUUID => some (sampleIds s.rows.length, s)
  | .reserve request =>
    let reserved := store.reserve request (content (.error (.foreign ""))) s.rows
    if restricted = false ∨ mayReserve s request then some (content reserved.1, { s with rows := reserved.2 }) else none
  | .claim _ _ => none

theorem performReservation_exec [Sha256] {store : ReservationStore} {restricted : Bool} {circumstances : Circumstances}
    (permits : ∀ s request result, restricted = false ∨ mayReserve s request → circumstances.reserve s request (content result))
    (i : Nat) (request : ReservationRequest) (op : ReservationCall) (s : ReservationState) (answer : op.Answer)
    (after : ReservationState) (performed : performReservation store restricted i request op s = some (answer, after)) :
    (reservationSystem store circumstances).exec i request op s answer after := by
  cases op with
  | readListing identifier =>
    unfold performReservation at performed
    dsimp only at performed
    split at performed
    · split at performed
      · rename_i row found named
        cases performed
        exact ⟨⟨rfl, named⟩, trivial⟩
      · cases performed
    · cases performed
  | reserve reservation =>
    unfold performReservation at performed
    dsimp only at performed
    split at performed
    · rename_i may
      cases performed
      exact ⟨.inr ⟨rfl, rfl⟩, permits _ _ _ may⟩
    · cases performed
  | negotiate => cases performed
  | claim => cases performed
  | _ =>
    cases performed
    first | exact ⟨rfl, trivial⟩ | exact ⟨⟨rfl, rfl⟩, trivial⟩

def samplePin : EnabledDeploymentPin :=
  { Bnbera.samplePin with
    chainId := .testnet
    commerceContract := ⟨"0x1000000000000000000000000000000000000001", by decide +kernel⟩
    paymentToken := ⟨"0x2000000000000000000000000000000000000002", by decide +kernel⟩ }

theorem agentVersion_ok : isUuid "00000000-0000-4000-8000-00000000000a" = true := by decide +kernel

def sampleStore : ReservationStore where
  pin := samplePin
  resolvesReadiness := false
  negotiates := false
  verifiesSavedOffers := false
  quoteLifetimeSeconds := 600
  referenceAgentId := none
  historicalJob _ := none

/-- A published agent at a price. -/
def sampleListing (price : String) : ListingRow where
  agentId := "agent-1"
  identity := {
    identityNamespace := "eip155"
    chainId := ⟨97, testnet_low, testnet_high⟩
    identityRegistry := ⟨"0x3000000000000000000000000000000000000003", by decide +kernel⟩
    agentId := ⟨"7", by decide +kernel⟩ }
  slug := some "agent"
  ownerAddress := none
  ownerObservedBlock := none
  agentWallet := some "0x4000000000000000000000000000000000000004"
  agentWalletObservedBlock := none
  identityObservedBlock := some 1
  identityObservedBlockHash := none
  identityReadConsistency := some "finalized"
  listingStatus := "published"
  verificationStatus := "verified"
  runtimeStatus := "live"
  authorityStatus := "active"
  executionWallet := none
  agentVersionId := ⟨_, agentVersion_ok⟩
  agentVersion := ⟨1, one_low, one_high⟩
  pricingManifest := some {
    model := "fixed"
    network := some 97
    tokenAddress := some "0x2000000000000000000000000000000000000002"
    decimals := some 18
    amountAtomic := some price
    minAtomic := none
    maxAtomic := none
    tokenSymbol := none }
  serviceKind := .a2a
  serviceUrl := some ⟨"https:", "", "", "https://agent.example/card"⟩
  serviceProtocolVersion := "1.0"
  serviceObservedAt := 0
  probeObservedAt := 0

def listed (price : String) (id : String) : Option ListingRow := if id = "agent-1" then some (sampleListing price) else none

theorem listed_agentId {price id : String} {row : ListingRow} (found : listed price id = some row) : row.agentId = id := by
  unfold listed at found
  split at found
  · rename_i same
    cases found
    exact same.symm
  · cases found

def isLive (store : ReservationStore) (s : ReservationState) (row : ReservationRow) : Bool :=
  match s.listings row.providerAgentId with
  | none => false
  | some listed =>
    match rowToListing listed store.pin with
    | .error _ => false
    | .ok listing => decide (row ∈ s.rows ∧ Unpaid row) && (store.assertQuoteStillCurrent row.quote listing (s.now / 1000)).isOk

theorem isLive_live {store : ReservationStore} {s : ReservationState} {row : ReservationRow} (live : isLive store s row = true) :
    Live store s row := by
  unfold isLive at live
  split at live
  · cases live
  · rename_i listed found
    split at live
    · cases live
    · rename_i listing read
      obtain ⟨here, current⟩ := Bool.and_eq_true_iff.mp live
      obtain ⟨member, unpaid⟩ := of_decide_eq_true here
      obtain ⟨_, still⟩ := isOk_iff.mp current
      exact ⟨member, unpaid, listed, found, listing, read, still⟩

namespace ReservationPool

attribute [local instance] nullSha256

def quoteTurns (i : Nat) : List (Interleaving.Cue ReservationRequest) :=
  .start (.quote "buyer" "agent" "task") :: List.replicate 4 (.call i)

def quoteRun (restricted : Bool) (i : Nat) (pool : ReservationPool) : Option ReservationPool :=
  Interleaving.System.play (fun request => (ReservationRequest.work sampleStore request).run)
    (performReservation sampleStore restricted) (quoteTurns i) pool

theorem Reach.quoted {circumstances : Circumstances} {restricted : Bool} {pool after : ReservationPool} {i : Nat}
    (reach : pool.Reach sampleStore circumstances)
    (permits : ∀ s request result, restricted = false ∨ mayReserve s request → circumstances.reserve s request (content result))
    (run : quoteRun restricted i pool = some after) : after.Reach sampleStore circumstances :=
  Interleaving.System.Reach.play reach (performReservation_exec permits) (fun _ _ _ => trivial) run

def opened (price : String) : ReservationPool := ⟨⟨[], listed price, 0⟩, []⟩

theorem opened_reach {circumstances : Circumstances} {price : String} : (opened price).Reach sampleStore circumstances :=
  .start ⟨rfl, fun _ _ => listed_agentId⟩

def relist (price : String) (pool : ReservationPool) : ReservationPool :=
  ⟨⟨pool.state.rows, listed price, pool.state.now + 1000⟩, pool.threads⟩

def returningRun : Option ReservationPool :=
  (quoteRun false 0 (opened "10")).bind fun pool => (quoteRun false 1 (relist "20" pool)).bind fun pool =>
    quoteRun false 2 (relist "10" pool)

theorem Reach.relisted {pool : ReservationPool} {price : String} (reach : pool.Reach sampleStore unrestricted) :
    (relist price pool).Reach sampleStore unrestricted :=
  reach.next (.environment ⟨rfl, Nat.le_add_right _ _, fun _ _ => listed_agentId, .inr trivial⟩)

end ReservationPool

end Bnbera.Reservations
