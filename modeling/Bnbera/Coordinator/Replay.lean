import Bnbera.Coordinator.Service

namespace Bnbera

open Interleaving OperationRepository

theorem assertDigest_eq {value label : String} {digest : Digest} (read : assertDigest value label = .ok digest) :
    digest.text = lower value := by
  unfold assertDigest at read
  split at read
  · rename_i normal
    cases Except.ok.inj read
    exact TextFormat.normalize_eq normal
  · cases read

theorem assertJobId_some {jobId : Option String} (present : jobId ≠ none) : assertJobId jobId ≠ .ok none := by
  intro read
  cases jobId with
  | none => exact present rfl
  | some value =>
    simp only [assertJobId] at read
    split at read
    · cases read
    · cases read

structure RecordOf (reservation : Reservation) (context : OperationContext) (record : OperationRecord) : Prop where
  requestDigest : record.requestDigest = reservation.requestDigest
  chainId : record.chainId = reservation.chainId
  commerceContract : record.commerceContract = reservation.commerceContract
  kind : record.kind = reservation.kind
  signerRole : record.signerRole = reservation.signerRole
  jobId : ∀ jobId, reservation.jobId = some jobId → record.jobId = some jobId
  context : ∃ stored, record.context = some stored ∧ context.Agrees stored

theorem ReservationOf.record {input : ReserveInput} {reservation : Reservation} {context : OperationContext}
    {old : OperationRow} (given : ReservationOf input reservation) (present : input.context = some context)
    (same : reservation.row.Continues old) :
    ∃ record, parseOperationRow old = .ok record ∧ RecordOf reservation context record := by
  have parsed : parseContext reservation.row.context = .ok (some context) := by
    have read := given.parsed
    rw [present] at read
    have column : reservation.row.context = some context.json := by
      have stored := given.context
      rwa [present] at stored
    rw [column]
    exact read
  obtain ⟨stored, again, agrees⟩ := same.context context parsed
  refine ⟨{ old with context := some stored }, by simp only [parseOperationRow, again, Except.map], ?_⟩
  exact ⟨same.requestDigest, same.chainId, same.commerceContract, same.kind, same.signerRole, same.jobId,
    stored, rfl, agrees⟩

theorem replayReservation_cases (operation : OperationRecord) :
    (∃ answer, replayReservation operation = .ok answer ∧ answer.replayed = true ∧ answer.operation = operation) ∨
    ∃ error, replayReservation operation = .error (.commerce error) ∧ error.code = .transactionUnknown := by
  unfold replayReservation
  split
  · exact .inl ⟨_, rfl, rfl, rfl⟩
  · exact .inr ⟨_, rfl, rfl⟩

theorem parseOperationRow_id {row : OperationRow} {record : OperationRecord} (read : parseOperationRow row = .ok record) :
    record.id = row.id := by
  unfold parseOperationRow at read
  cases context : parseContext row.context with
  | error failure =>
    rw [context] at read
    cases read
  | ok context' =>
    rw [context] at read
    cases Except.ok.inj read
    rfl

variable [Sha256]

structure SameRequest (existing : OperationRecord) (input : ReserveInput) (requestDigest : Digest)
    (commerceContract : Address) (jobId : Option DecimalUint) (context : Option OperationContext) : Prop where
  requestDigest : existing.requestDigest = requestDigest
  chainId : existing.chainId = input.chainId
  commerceContract : existing.commerceContract = commerceContract
  jobId : sameOperationJobId existing jobId = true
  kind : existing.kind = input.kind
  signerRole : existing.signerRole = input.signerRole
  absent : existing.context = none ↔ context = none
  signerAddress : ∀ a b, existing.context = some a → context = some b → a.signerAddress = b.signerAddress
  sdkAction : ∀ a b, existing.context = some a → context = some b → a.sdkAction = b.sdkAction
  parameters : ∀ a b, existing.context = some a → context = some b →
    parametersDigest a.parameters = parametersDigest b.parameters
  expectation : ∀ a b, existing.context = some a → context = some b →
    expectationDigest a.expectation = expectationDigest b.expectation

/-- A replay is refused exactly when it differs, and always as a conflict. -/
theorem assertReplayIdentity_cases (existing : OperationRecord) (input : ReserveInput) (requestDigest : Digest)
    (commerceContract : Address) (jobId : Option DecimalUint) (context : Option OperationContext) :
    (assertReplayIdentity existing input requestDigest commerceContract jobId context = .ok () ∧
      SameRequest existing input requestDigest commerceContract jobId context) ∨
    ¬ SameRequest existing input requestDigest commerceContract jobId context ∧
      ∃ error, assertReplayIdentity existing input requestDigest commerceContract jobId context =
        .error (.commerce error) ∧ error.code = .idempotencyConflict := by
  unfold assertReplayIdentity
  split
  · rename_i differs
    refine .inr ⟨fun same => ?_, _, rfl, rfl⟩
    rcases differs with d | d | d | d | d | d
    · exact d same.requestDigest
    · exact d same.chainId
    · exact d same.commerceContract
    · cases d.symm.trans same.jobId
    · exact d same.kind
    · exact d same.signerRole
  · rename_i agrees
    simp only [not_or, ne_eq, not_not, Bool.not_eq_false] at agrees
    obtain ⟨digest, chain, contract, job, kind, role⟩ := agrees
    cases stored : existing.context with
    | none =>
      cases context with
      | none =>
        exact .inl ⟨rfl, digest, chain, contract, job, kind, role, by simp [stored], by simp, by simp, by simp, by simp⟩
      | some b => exact .inr ⟨fun same => (nomatch same.absent.mp stored), _, rfl, rfl⟩
    | some a =>
      cases context with
      | none => exact .inr ⟨fun same => (nomatch stored.symm.trans (same.absent.mpr rfl)), _, rfl, rfl⟩
      | some b =>
        dsimp only
        split
        · rename_i signer
          exact .inr ⟨fun same => signer (same.signerAddress a b stored rfl), _, rfl, rfl⟩
        · rename_i signer
          split
          · rename_i material
            refine .inr ⟨fun same => ?_, _, rfl, rfl⟩
            rcases material with d | d | d
            · exact d (same.sdkAction a b stored rfl)
            · exact d (same.parameters a b stored rfl)
            · exact d (same.expectation a b stored rfl)
          · rename_i material
            simp only [not_or, ne_eq, not_not] at signer material
            obtain ⟨action, parameters, expectation⟩ := material
            have only : ∀ {P : OperationContext → OperationContext → Prop}, P a b → ∀ x y,
                existing.context = some x → some b = some y → P x y := by
              intro P holds x y atX atY
              cases Option.some.inj (stored.symm.trans atX)
              cases Option.some.inj atY
              exact holds
            exact .inl ⟨rfl, digest, chain, contract, job, kind, role, by simp [stored], only signer, only action,
              only parameters, only expectation⟩

def OperationContext.parametersText (context : OperationContext) : String :=
  canonicalizeJson (nullable .obj context.parameters)

def OperationContext.expectationText (context : OperationContext) : String :=
  canonicalizeJson (nullable (fun value => .obj value.fields) context.expectation.join)

/-- A second request under a key that is not a repeat of the first. Letter case does
not count in what is normalized, nor field order in what is hashed. -/
inductive Differs (first second : PreparedOperation) : Prop
  | requestDigest : lower first.requestDigest ≠ lower second.requestDigest → Differs first second
  | chainId : first.chainId ≠ second.chainId → Differs first second
  | commerceContract : lower first.commerceContract ≠ lower second.commerceContract → Differs first second
  | kind : first.kind ≠ second.kind → Differs first second
  | signerRole : first.signerRole ≠ second.signerRole → Differs first second
  | absent : second.context = none → Differs first second
  | signerAddress {a b} : first.context = some a → second.context = some b → a.signerAddress ≠ b.signerAddress →
      Differs first second
  | sdkAction {a b} : first.context = some a → second.context = some b → a.sdkAction ≠ b.sdkAction →
      Differs first second
  | parameters {a b} : first.context = some a → second.context = some b → a.parametersText ≠ b.parametersText →
      Differs first second
  | expectation {a b} : first.context = some a → second.context = some b → a.expectationText ≠ b.expectationText →
      Differs first second

def CollisionFree (first second : PreparedOperation) : Prop :=
  ∀ a b, first.context = some a → second.context = some b →
    (parametersDigest a.parameters = parametersDigest b.parameters → a.parametersText = b.parametersText) ∧
    (expectationDigest a.expectation = expectationDigest b.expectation → a.expectationText = b.expectationText)

/-- A request that differs from the one that created the row is refused as a conflict. -/
theorem RecordOf.conflict {first second : PreparedOperation} {firstKey secondKey : String}
    {reservation again : Reservation} {context : OperationContext} {record : OperationRecord}
    (record_of : RecordOf reservation context record) (present : first.context = some context)
    (given : ReservationOf (reserveInput first firstKey) reservation)
    (replay : ReservationOf (reserveInput second secondKey) again) (differs : Differs first second)
    (collisionFree : CollisionFree first second) :
    ∃ error, assertReplayIdentity record (reserveInput second secondKey) again.requestDigest again.commerceContract
      again.jobId second.context = .error (.commerce error) ∧ error.code = .idempotencyConflict := by
  rcases assertReplayIdentity_cases record (reserveInput second secondKey) again.requestDigest again.commerceContract
    again.jobId second.context with ⟨_, same⟩ | ⟨_, refused⟩
  · exfalso
    obtain ⟨stored, atRecord, agrees⟩ := record_of.context
    have sameDigest : reservation.requestDigest = again.requestDigest :=
      record_of.requestDigest.symm.trans same.requestDigest
    have sameContract : reservation.commerceContract = again.commerceContract :=
      record_of.commerceContract.symm.trans same.commerceContract
    cases differs with
    | requestDigest d =>
      exact d ((assertDigest_eq given.requestDigest).symm.trans
        ((congrArg Normalized.text sameDigest).trans (assertDigest_eq replay.requestDigest)))
    | chainId d => exact d (given.chainId.symm.trans (record_of.chainId.symm.trans same.chainId))
    | commerceContract d =>
      exact d ((normalizeAddress_eq given.commerceContract).symm.trans
        ((congrArg Normalized.text sameContract).trans (normalizeAddress_eq replay.commerceContract)))
    | kind d => exact d (given.kind.symm.trans (record_of.kind.symm.trans same.kind))
    | signerRole d => exact d (given.signerRole.symm.trans (record_of.signerRole.symm.trans same.signerRole))
    | absent none => cases atRecord.symm.trans (same.absent.mpr none)
    | signerAddress atFirst atSecond d =>
      cases Option.some.inj (present.symm.trans atFirst)
      exact d (agrees.signerAddress.symm.trans (same.signerAddress _ _ atRecord atSecond))
    | sdkAction atFirst atSecond d =>
      cases Option.some.inj (present.symm.trans atFirst)
      exact d (agrees.sdkAction.symm.trans (same.sdkAction _ _ atRecord atSecond))
    | parameters atFirst atSecond d =>
      cases Option.some.inj (present.symm.trans atFirst)
      refine d ((collisionFree _ _ atFirst atSecond).1 ?_)
      exact agrees.parameters ▸ same.parameters _ _ atRecord atSecond
    | expectation atFirst atSecond d =>
      cases Option.some.inj (present.symm.trans atFirst)
      refine d ((collisionFree _ _ atFirst atSecond).2 ?_)
      exact agrees.expectation ▸ same.expectation _ _ atRecord atSecond
  · exact refused

/-- A repeat of the request that created the row is recognized, whatever job id the
row was given since: only a hire is reserved before its job exists. -/
theorem RecordOf.repeats {prepared : PreparedOperation} {firstKey secondKey : String}
    {reservation again : Reservation} {context : OperationContext} {record : OperationRecord}
    (record_of : RecordOf reservation context record) (present : prepared.context = some context)
    (given : ReservationOf (reserveInput prepared firstKey) reservation)
    (replay : ReservationOf (reserveInput prepared secondKey) again)
    (bound : prepared.kind = .create ∨ prepared.jobId ≠ none) :
    assertReplayIdentity record (reserveInput prepared secondKey) again.requestDigest again.commerceContract
      again.jobId prepared.context = .ok () := by
  rcases assertReplayIdentity_cases record (reserveInput prepared secondKey) again.requestDigest again.commerceContract
    again.jobId prepared.context with ⟨recognized, _⟩ | ⟨differs, _⟩
  · exact recognized
  · exfalso
    obtain ⟨stored, atRecord, agrees⟩ := record_of.context
    have digest : reservation.requestDigest = again.requestDigest :=
      Except.ok.inj (given.requestDigest.symm.trans replay.requestDigest)
    have contract : reservation.commerceContract = again.commerceContract :=
      Except.ok.inj (given.commerceContract.symm.trans replay.commerceContract)
    have jobId : reservation.jobId = again.jobId := Except.ok.inj (given.jobId.symm.trans replay.jobId)
    have kind : record.kind = prepared.kind := record_of.kind.trans given.kind
    have sameJob : sameOperationJobId record again.jobId = true := by
      unfold sameOperationJobId
      split
      · rfl
      · rename_i unbound
        cases number : again.jobId with
        | some known =>
          rw [record_of.jobId known (jobId.trans number)]
          exact beq_self_eq_true _
        | none =>
          cases stored' : record.jobId with
          | none => rfl
          | some known =>
            have created : record.kind ≠ .create := fun created => unbound ⟨created, by simp [stored'], number⟩
            have unknown : prepared.jobId ≠ none := bound.resolve_left (kind ▸ created)
            have read : assertJobId prepared.jobId = .ok none := number ▸ replay.jobId
            exact absurd read (assertJobId_some unknown)
    have only : ∀ {P : OperationContext → OperationContext → Prop}, P stored context → ∀ a b,
        record.context = some a → prepared.context = some b → P a b := by
      intro P holds a b atA atB
      cases Option.some.inj (atRecord.symm.trans atA)
      cases Option.some.inj (present.symm.trans atB)
      exact holds
    refine differs ⟨record_of.requestDigest.trans digest, record_of.chainId.trans given.chainId,
      record_of.commerceContract.trans contract, sameJob, kind, record_of.signerRole.trans given.signerRole,
      by simp [atRecord, present], only agrees.signerAddress, only agrees.sdkAction, only ?_, only ?_⟩
    · rw [agrees.parameters]
    · rw [agrees.expectation]

theorem executeReplay_of {input : ReserveInput} {reservation : Reservation} {old : OperationRow}
    {record : OperationRecord} (read : parseOperationRow old = .ok record) :
    executeReplay input reservation old = (do
      assertReplayIdentity record input reservation.requestDigest reservation.commerceContract reservation.jobId
        input.context
      replayReservation record) := by
  simp only [executeReplay, replayOutcome_of read]
  cases assertReplayIdentity record input reservation.requestDigest reservation.commerceContract reservation.jobId
    input.context <;> rfl

theorem executeReplay_ok {input : ReserveInput} {reservation : Reservation} {old : OperationRow}
    {answer : CoordinatorResult AdapterExecution} (done : executeReplay input reservation old = .ok answer) :
    answer.replayed = true ∧ answer.operation.id = old.id := by
  cases read : parseOperationRow old with
  | error failure =>
    simp only [executeReplay, replayOutcome, read] at done
    cases done
  | ok record =>
    rw [executeReplay_of read] at done
    obtain ⟨_, _, rest⟩ := bind_eq_ok.mp done
    rcases replayReservation_cases record with ⟨found, same, replayed, operation⟩ | ⟨error, refused, _⟩
    · cases Except.ok.inj (same.symm.trans rest)
      exact ⟨replayed, operation ▸ parseOperationRow_id read⟩
    · cases refused.symm.trans rest

end Bnbera
