import Bnbera.Interleaving.Pool
import Bnbera.Reservations.Quote

namespace Bnbera.Reservations

open Interleaving

inductive ReservationRequest
  | quote (buyerUserId agentIdentifier task : String)
  | claim (commerceJobId buyerUserId : String)

def ReservationRequest.work [Sha256] (store : ReservationStore) :
    ReservationRequest → ReservationWork (Option CommerceQuoteSnapshot)
  | quote buyerUserId agentIdentifier task => do
    let snapshot ← store.quote buyerUserId agentIdentifier task
    return some snapshot
  | claim commerceJobId buyerUserId => do
    Reservations.claim commerceJobId buyerUserId
    return none

/-- The table of reservations, the listings by the id of their agent, and the time in milliseconds. -/
structure ReservationState where
  rows : List ReservationRow
  listings : String → Option ListingRow
  now : Nat

def Names (identifier : String) (row : ListingRow) : Prop :=
  erc8004IdentityKey row.identity = identifier ∨ row.slug = some identifier

def ReservationState.Listed (s : ReservationState) (row : ListingRow) : Prop := s.listings row.agentId = some row

instance (s : ReservationState) (row : ListingRow) : Decidable (s.Listed row) := inferInstanceAs (Decidable (_ = _))

/-- A transaction holds the advisory lock of its buyer, agent and task and the rows that it reads for update, so it is
one call; it may also fail and leave everything as it was. -/
def reservationExec [Sha256] (store : ReservationStore) :
    Semantics ReservationCall ReservationCall.Answer ReservationState
  | .readListing identifier, before, answer, after => after = before ∧
    match answer with
    | some row => before.Listed row ∧ Names identifier row
    | none => True
  | .clock, before, answer, after => after = before ∧ answer = before.now
  | .reserve request, before, answer, after =>
    (∃ failure, answer.result = .error failure ∧ after = before) ∨
      after = { before with rows := (store.reserve request answer before.rows).2 } ∧
        answer.result = (store.reserve request answer before.rows).1
  | .claim commerceJobId buyerUserId, before, answer, after =>
    (∃ failure, answer = .error failure ∧ after = before) ∨
      after = { before with rows := (claimReservation before.rows commerceJobId buyerUserId before.now).2 } ∧
        answer = (claimReservation before.rows commerceJobId buyerUserId before.now).1
  | _, before, _, after => after = before

structure Circumstances where
  reserve : ReservationState → QuoteReservation → Transacted → Prop
  relist : ReservationState → (String → Option ListingRow) → Prop

/-- The reservation store of one deployment: the clock goes on and the listings change between the calls. -/
def reservationSystem [Sha256] (store : ReservationStore) (circumstances : Circumstances) :
    System ReservationRequest ReservationCall ReservationCall.Answer (Except Failure (Option CommerceQuoteSnapshot))
      ReservationState where
  handler request := (request.work store).run
  exec _ _ op before answer after := reservationExec store op before answer after ∧
    match op, answer with
    | .reserve request, answer => circumstances.reserve before request answer
    | _, _ => True
  environment before after := after.rows = before.rows ∧ before.now ≤ after.now ∧
    (∀ id row, after.listings id = some row → row.agentId = id) ∧
    (after.listings = before.listings ∨ circumstances.relist before after.listings)
  mayStart _ _ := True

def ReservationState.Initial (s : ReservationState) : Prop :=
  s.rows = [] ∧ ∀ id row, s.listings id = some row → row.agentId = id

abbrev ReservationPool := Pool ReservationRequest ReservationCall ReservationCall.Answer
  (Except Failure (Option CommerceQuoteSnapshot)) ReservationState

abbrev ReservationPool.Reach [Sha256] (store : ReservationStore) (circumstances : Circumstances) (pool : ReservationPool) : Prop :=
  (reservationSystem store circumstances).Reach ReservationState.Initial pool

def requestedTask (row : ReservationRow) : String :=
  match row.quote.externalSeller with
  | some seller => seller.requestedTask
  | none => row.quote.task

def SameTask (row other : ReservationRow) : Prop :=
  row.buyerUserId = other.buyerUserId ∧ row.providerAgentId = other.providerAgentId ∧ requestedTask row = requestedTask other

instance (row other : ReservationRow) : Decidable (SameTask row other) := inferInstanceAs (Decidable (_ ∧ _))

/-- `assertQuoteStillCurrent` passes against the listing that an agent has there. -/
def Current (store : ReservationStore) (listings : String → Option ListingRow) (nowUnix : Nat) (row : ReservationRow) : Prop :=
  ∃ listed ∈ listings row.providerAgentId, ∃ listing, rowToListing listed store.pin = .ok listing ∧
    store.assertQuoteStillCurrent row.quote listing nowUnix = .ok ()

def Live (store : ReservationStore) (s : ReservationState) (row : ReservationRow) : Prop :=
  row ∈ s.rows ∧ Unpaid row ∧ Current store s.listings (s.now / 1000) row

def Superseded (s : ReservationState) (row : ReservationRow) : Prop :=
  row ∈ s.rows ∧ Unpaid row ∧ ∃ later ∈ s.rows, Unpaid later ∧ SameTask row later ∧ row.createdAt < later.createdAt

/-- A quote's transaction sees the listing that it has read, is the first of its task in its second, does not refuse a
saved offer as stale, and no signed description stands for two tasks. -/
structure Settled (s : ReservationState) (request : QuoteReservation) (answers : Transacted) : Prop where
  listed : s.Listed request.listingRow
  later : ∀ row ∈ s.rows, row.buyerUserId = request.buyerUserId → row.providerAgentId = request.listingRow.agentId →
    requestedTask row = request.task → row.createdAt < request.snapshot.issuedAt
  confirmed : ∀ failure, answers.savedOffer = .error failure → failure.hasCode .staleJob = false
  distinct : ∀ row ∈ s.rows, row.buyerUserId = request.buyerUserId → row.providerAgentId = request.listingRow.agentId →
    row.taskInputDigest = request.snapshot.taskDigest → requestedTask row = request.task

/-- No listing comes back to the terms of a reservation that was followed by a newer one and has not expired. -/
def Onward (store : ReservationStore) (s : ReservationState) (listings : String → Option ListingRow) : Prop :=
  ∀ row, Superseded s row → ¬Current store listings (s.now / 1000) row

def orderly (store : ReservationStore) : Circumstances where
  reserve := Settled
  relist := Onward store

section

variable {store : ReservationStore} {s after : ReservationState} {row other existing : ReservationRow}
  {rows : List ReservationRow} {request : QuoteReservation} {answers : Transacted} {listing : Listing}
  {quote : CommerceQuoteSnapshot} {now later : Nat}

theorem assertQuoteStillCurrent_earlier (current : store.assertQuoteStillCurrent quote listing later = .ok ())
    (before : now ≤ later) : store.assertQuoteStillCurrent quote listing now = .ok () := by
  obtain ⟨unexpired, fits⟩ := refuseIf_bind_eq_ok.mp current
  refine refuseIf_bind_eq_ok.mpr ⟨fun expired => unexpired ?_, fits⟩
  have grows : now * 1000 ≤ later * 1000 := Nat.mul_le_mul_right 1000 before
  exact expired.trans grows

theorem Current.earlier {listings : String → Option ListingRow} (current : Current store listings later row)
    (before : now ≤ later) : Current store listings now row := by
  obtain ⟨listed, found, listing, read, still⟩ := current
  exact ⟨listed, found, listing, read, assertQuoteStillCurrent_earlier still before⟩

theorem Current.version {listings : String → Option ListingRow} (current : Current store listings now row) :
    ∃ listed ∈ listings row.providerAgentId, ∃ listing, rowToListing listed store.pin = .ok listing ∧
      row.quote.agentVersionId = listing.agentVersionId := by
  obtain ⟨listed, found, listing, read, still⟩ := current
  obtain ⟨_, fits⟩ := refuseIf_bind_eq_ok.mp still
  have same := refuseIf_eq_ok.mp fits
  exact ⟨listed, found, listing, read, by_contra fun differs => same (.inr (.inl differs))⟩

theorem newest_eq_some (first : ReservationStore.newest rows = some row) :
    row ∈ rows ∧ ∀ other ∈ rows, other.createdAt ≤ row.createdAt := by
  have chosen : row ∈ rows.argmax fun row => toLex (row.createdAt, row.id.text) := first
  refine ⟨List.argmax_mem chosen, fun other member => ?_⟩
  have bound := List.not_lt_of_mem_argmax member chosen
  by_contra newer
  exact bound (Prod.Lex.toLex_lt_toLex.mpr (.inl (Nat.lt_of_not_le newer)))

theorem newest_isSome (member : row ∈ rows) : ∃ first, ReservationStore.newest rows = some first := by
  cases found : ReservationStore.newest rows with
  | some first => exact ⟨first, rfl⟩
  | none =>
    have empty : rows = [] := List.argmax_eq_none.mp found
    rw [empty] at member
    exact absurd member List.not_mem_nil

theorem reuse_current (parsed : parseReservationRow existing = .ok existing.quote)
    (still : store.assertQuoteStillCurrent existing.quote request.listing request.nowUnix = .ok ())
    (confirmed : ∀ failure, answers.savedOffer = .error failure → failure.hasCode .staleJob = false) :
    store.reuse request answers existing ≠ .ok none := by
  intro reused
  obtain ⟨quote, read, reused⟩ := bind_eq_ok.mp reused
  cases parsed.symm.trans read
  obtain ⟨_, _, reused⟩ := bind_eq_ok.mp reused
  rw [still] at reused
  by_cases external : existing.quote.externalSeller = none
  · simp [external, bind, Except.bind, pure, Except.pure] at reused
  · by_cases verifies : store.verifiesSavedOffers = false
    · simp [external, verifies, bind, Except.bind, throw, throwThe, MonadExceptOf.throw, Failure.hasCode, commerceError] at reused
    · cases saved : answers.savedOffer with
      | ok => simp [external, verifies, saved, bind, Except.bind, pure, Except.pure] at reused
      | error failure =>
        have kept := confirmed failure saved
        simp [external, verifies, saved, kept, bind, Except.bind, throw, throwThe, MonadExceptOf.throw] at reused

theorem insert_rows {capacity : Except Failure Unit} : (ReservationStore.insert request capacity rows).2 = rows ∨
    (ReservationStore.insert request capacity rows).2 = rows ++ [ReservationStore.inserted request] := by
  unfold ReservationStore.insert
  split
  · exact .inl rfl
  · split
    · split
      · exact .inl rfl
      · exact .inr rfl
    · exact .inr rfl

theorem reserve_rows : (store.reserve request answers rows).2 = rows ∨
    (store.reserve request answers rows).2 = rows ++ [ReservationStore.inserted request] ∧
      ∀ existing, ReservationStore.newest (rows.filter (ReservationStore.Matches request ·)) = some existing →
        store.reuse request answers existing = .ok none := by
  unfold ReservationStore.reserve
  split
  · rename_i none
    exact insert_rows.imp_right fun same => ⟨same, fun existing found => (nomatch none.symm.trans found)⟩
  · rename_i first found
    split
    · exact .inl rfl
    · exact .inl rfl
    · rename_i reused
      refine insert_rows.imp_right fun same => ⟨same, fun existing also => ?_⟩
      cases found.symm.trans also
      exact reused

end

variable [Sha256] {store : ReservationStore} {circumstances : Circumstances}

structure Drafted (store : ReservationStore) (request : QuoteReservation) (now : Nat) : Prop where
  read : rowToListing request.listingRow store.pin = .ok request.listing
  made : ∃ quoteId identifier offer, (offer.isSome = true ↔ request.listing.identity.chainId.value = 56) ∧
    request.snapshot = store.snapshot quoteId identifier request.task request.listing offer request.nowUnix
  past : request.nowUnix ≤ now / 1000

inductive Moved (store : ReservationStore) (circumstances : Circumstances) (before : ReservationState) : ReservationState → Prop
  | same : Moved store circumstances before before
  | reserved {request answers} : Drafted store request before.now → circumstances.reserve before request answers →
      Moved store circumstances before { before with rows := (store.reserve request answers before.rows).2 }
  | claimed {commerceJobId buyerUserId} : Moved store circumstances before
      { before with rows := (claimReservation before.rows commerceJobId buyerUserId before.now).2 }

def Passes (before after : ReservationState) : Prop := before.now ≤ after.now

omit [Sha256] in
theorem Passes.trans {first second third : ReservationState} (passes : Passes first second) (later : Passes second third) :
    Passes first third := Nat.le_trans passes later

omit [Sha256] in
theorem passes_closed : Rely Passes := ⟨fun _ => Nat.le_refl _, Passes.trans⟩

theorem Moved.passes {before after : ReservationState} (moved : Moved store circumstances before after) : Passes before after := by
  cases moved with
  | same => exact Nat.le_refl _
  | reserved => exact Nat.le_refl _
  | claimed => exact Nat.le_refl _

/-- Each call of a part of a request moves the state as above, whatever the others do in between. -/
structure ReservationMeets (store : ReservationStore) (circumstances : Circumstances) {α : Type}
    (post : Except Failure α → ReservationState → Prop) (work : ReservationWork α) (s : ReservationState) : Prop where
  meets : ∀ i request, Meets ((reservationSystem store circumstances).exec i request) Passes (Moved store circumstances) post work.run s

def Transacts : ReservationCall → Prop
  | .reserve _ | .claim _ _ => True
  | _ => False

section
variable {α β : Type} {s : ReservationState} {post : Except Failure α → ReservationState → Prop}

theorem exec_quiet {op : ReservationCall} {answer : op.Answer} {before after : ReservationState} {i : Nat}
    {request : ReservationRequest} (quiet : ¬Transacts op)
    (called : (reservationSystem store circumstances).exec i request op before answer after) : after = before := by
  obtain ⟨called, _⟩ := called
  cases op with
  | reserve => exact absurd trivial quiet
  | claim => exact absurd trivial quiet
  | readListing => exact called.1
  | clock => exact called.1
  | _ => exact called

namespace ReservationMeets

theorem pure {value : α} (holds : ∀ s', Passes s s' → post (.ok value) s') :
    ReservationMeets store circumstances post (pure value) s := ⟨fun _ _ => holds⟩

theorem throw {failure : Failure} (holds : ∀ s', Passes s s' → post (.error failure) s') :
    ReservationMeets store circumstances post (throw failure) s := ⟨fun _ _ => holds⟩

theorem bind {rest : β → ReservationWork α} {first : ReservationWork β} {middle : Except Failure β → ReservationState → Prop}
    (meets : ReservationMeets store circumstances middle first s)
    (failed : ∀ failure s', middle (.error failure) s' → ∀ s'', Passes s' s'' → post (.error failure) s'')
    (next : ∀ value s', middle (.ok value) s' → ReservationMeets store circumstances post (rest value) s') :
    ReservationMeets store circumstances post (first >>= rest) s := by
  refine ⟨fun i request => Meets.except_bind passes_closed ((meets.meets i request).mono ?_)⟩
  rintro (failure | value) s' holds
  · exact failed failure s' holds
  · exact (next value s' holds).meets i request

theorem lift {result : Except Failure α} (holds : ∀ s', Passes s s' → post result s') :
    ReservationMeets store circumstances post (liftM result) s := by
  cases result with
  | error failure => exact throw holds
  | ok value => exact pure holds

theorem ask (op : ReservationCall) {post : Except Failure op.Answer → ReservationState → Prop} (quiet : ¬Transacts op)
    (holds : ∀ s' answer i request, Passes s s' →
      (reservationSystem store circumstances).exec i request op s' answer s' → ∀ s'', Passes s' s'' → post (.ok answer) s'') :
    ReservationMeets store circumstances post (Reservations.ask op) s := by
  refine ⟨fun i request s' moved answer after called => ?_⟩
  cases exec_quiet quiet called
  exact ⟨.same, holds s' answer i request moved called⟩

end ReservationMeets

end

section
variable {s : ReservationState} {listing : Listing} {task identifier : String}

abbrev Gives {α : Type} (store : ReservationStore) (circumstances : Circumstances) (given : α → ReservationState → Prop)
    (work : ReservationWork α) (s : ReservationState) : Prop :=
  ReservationMeets store circumstances (fun result s' => Passes s s' ∧ ∀ value, result = .ok value → given value s') work s

namespace Gives

variable {α β : Type} {given : β → ReservationState → Prop} {holds : α → ReservationState → Prop}

theorem throw {failure : Failure} : Gives store circumstances holds (throw failure) s :=
  ReservationMeets.throw fun _ moved => ⟨moved, fun _ same => (nomatch same)⟩

theorem pure {value : α} (found : ∀ s', Passes s s' → holds value s') : Gives store circumstances holds (pure value) s :=
  ReservationMeets.pure fun s' moved => ⟨moved, fun _ same => Except.ok.inj same ▸ found s' moved⟩

theorem ask {op : ReservationCall} (quiet : ¬Transacts op) : Gives store circumstances (fun _ _ => True) (Reservations.ask op) s :=
  ReservationMeets.ask op quiet fun _ _ _ _ moved _ _ later => ⟨moved.trans later, fun _ _ => trivial⟩

theorem clock : Gives store circumstances (fun now s' => now ≤ s'.now) (Reservations.ask .clock) s := by
  refine ReservationMeets.ask .clock id fun s' answer _ _ moved called s'' later => ⟨moved.trans later, fun now same => ?_⟩
  cases same
  rw [called.1.2]
  exact later

theorem lift {result : Except Failure α} : Gives store circumstances (fun value _ => result = .ok value) (liftM result) s :=
  ReservationMeets.lift fun _ moved => ⟨moved, fun _ same => same⟩

theorem bind {first : ReservationWork β} {rest : β → ReservationWork α} (gives : Gives store circumstances given first s)
    (next : ∀ value s', Passes s s' → given value s' → Gives store circumstances holds (rest value) s') :
    Gives store circumstances holds (first >>= rest) s := by
  refine ReservationMeets.bind gives (fun _ s' failed s'' later => ?_) fun value s' found => ⟨fun i request => ?_⟩
  · exact ⟨failed.1.trans later, fun _ same => (nomatch same)⟩
  · refine ((next value s' found.1 (found.2 value rfl)).meets i request).mono fun result s'' holds => ?_
    exact ⟨found.1.trans holds.1, holds.2⟩

theorem mono {looser : α → ReservationState → Prop} {work : ReservationWork α} (gives : Gives store circumstances holds work s)
    (implies : ∀ value s', holds value s' → looser value s') : Gives store circumstances looser work s := by
  refine ⟨fun i request => (gives.meets i request).mono fun result s' found => ?_⟩
  exact ⟨found.1, fun value same => implies value s' (found.2 value same)⟩

end Gives

theorem listingByIdentifier_gives : Gives store circumstances (fun found _ => rowToListing found.1 store.pin = .ok found.2)
    (store.listingByIdentifier identifier) s := by
  refine (Gives.ask id).bind fun found s' _ _ => ?_
  cases found with
  | none => exact Gives.throw
  | some row => exact Gives.lift.bind fun listing s'' _ read => Gives.pure fun _ _ => read

theorem admitTask_gives : Gives store circumstances (fun _ _ => True) (store.admitTask listing task) s := by
  unfold ReservationStore.admitTask
  split
  · exact (Gives.ask id).bind fun admitted s' _ _ => Gives.lift.mono fun _ _ _ => trivial
  · exact Gives.pure fun _ _ => trivial

theorem assertProviderReadiness_gives : Gives store circumstances (fun _ _ => True) (store.assertProviderReadiness listing) s := by
  unfold ReservationStore.assertProviderReadiness
  split
  · exact (Gives.ask id).bind fun resolved s' _ _ => Gives.lift.mono fun _ _ _ => trivial
  · exact Gives.lift.mono fun _ _ _ => trivial

theorem negotiateOffer_gives : Gives store circumstances
    (fun offer _ => offer.isSome = true ↔ listing.identity.chainId.value = 56) (store.negotiateOffer listing task) s := by
  unfold ReservationStore.negotiateOffer
  split
  · rename_i main
    split
    · exact Gives.throw
    · refine (Gives.ask id).bind fun negotiated _ _ _ => Gives.lift.bind fun offer _ _ _ => Gives.lift.bind fun _ _ _ _ => ?_
      exact Gives.pure fun _ _ => ⟨fun _ => main, fun _ => rfl⟩
  · rename_i test
    exact Gives.pure fun _ _ => ⟨fun some => (nomatch some), fun main => absurd main test⟩

theorem reserve_gives {request : QuoteReservation} (drafted : ∀ s', Passes s s' → Drafted store request s'.now) :
    Gives store circumstances (fun _ _ => True) (Reservations.ask (.reserve request)) s := by
  refine ⟨fun i thread s' moved answer after called => ?_⟩
  obtain ⟨called, permitted⟩ := called
  rcases called with ⟨failure, _, same⟩ | ⟨same, _⟩
  · exact ⟨same ▸ .same, fun s'' later => ⟨moved.trans (same ▸ later), fun _ _ => trivial⟩⟩
  · refine ⟨same ▸ .reserved (drafted s' moved) permitted, fun s'' later => ⟨?_, fun _ _ => trivial⟩⟩
    rw [same] at later
    exact moved.trans later

theorem quote_gives {buyerUserId : String} :
    Gives store circumstances (fun _ _ => True) (store.quote buyerUserId identifier task) s := by
  unfold ReservationStore.quote
  refine Gives.lift.bind fun parsed _ _ _ => listingByIdentifier_gives.bind fun found _ _ read => ?_
  refine admitTask_gives.bind fun _ _ _ _ => assertProviderReadiness_gives.bind fun _ _ _ _ => ?_
  refine negotiateOffer_gives.bind fun offer _ _ offered => Gives.clock.bind fun now s₁ _ clock => ?_
  refine (Gives.ask id).bind fun quoteId s₂ passed _ => ?_
  refine (reserve_gives fun s' later => ?_).bind fun transacted _ _ _ => Gives.lift.mono fun _ _ _ => trivial
  exact ⟨read, ⟨quoteId, _, offer, offered, rfl⟩, Nat.div_le_div_right (clock.trans (passed.trans later))⟩

theorem claiming_gives {commerceJobId buyerUserId : String} :
    Gives store circumstances (fun _ _ => True) (Reservations.ask (.claim commerceJobId buyerUserId)) s := by
  refine ⟨fun i thread s' moved answer after called => ?_⟩
  rcases called.1 with ⟨failure, _, same⟩ | ⟨same, _⟩
  · exact ⟨same ▸ .same, fun s'' later => ⟨moved.trans (same ▸ later), fun _ _ => trivial⟩⟩
  · refine ⟨same ▸ .claimed, fun s'' later => ⟨?_, fun _ _ => trivial⟩⟩
    rw [same] at later
    exact moved.trans later

theorem claim_gives {commerceJobId buyerUserId : String} :
    Gives store circumstances (fun _ _ => True) (claim commerceJobId buyerUserId) s :=
  claiming_gives.bind fun _ _ _ _ => Gives.lift.mono fun _ _ _ => trivial

theorem work_gives {request : ReservationRequest} :
    Gives store circumstances (fun _ _ => True) (request.work store) s := by
  unfold ReservationRequest.work
  cases request with
  | quote buyerUserId agentIdentifier task => exact quote_gives.bind fun _ _ _ _ => Gives.pure fun _ _ => trivial
  | claim commerceJobId buyerUserId => exact claim_gives.bind fun _ _ _ _ => Gives.pure fun _ _ => trivial

theorem reservation_contract : (reservationSystem store circumstances).Contract ReservationState.Initial (fun _ => Passes)
    (fun _ => Moved store circumstances) (fun _ _ _ _ => True) where
  closed _ := passes_closed
  environment _ _ _ moved := moved.2.1
  fellows _ _ _ _ _ moved := moved.passes
  handlers pool request _ _ := (work_gives.meets pool.threads.length request).mono fun _ _ _ => trivial

end

end Bnbera.Reservations
