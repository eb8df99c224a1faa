import Bnbera.Coordinator.System
import Bnbera.Operations.Footprint
import Bnbera.Operations.Identity

namespace Bnbera

open Interleaving OperationRepository

variable {number : Nat}

structure CoordinatorRely (number : Nat) (before after : CoordinatorState) : Prop where
  history : after.calls number = before.calls number
  moves : before.Moves after

def CoordinatorState.Sends (state : CoordinatorState) (number : Nat) : Prop :=
  (state.calls number).started = [] ∨
    ∃ id reservation, state.creator id = some (number, reservation) ∧ (state.calls number).started = [id]

structure CoordinatorGuarantee (number : Nat) (before after : CoordinatorState) : Prop where
  others : ∀ other, other ≠ number → after.calls other = before.calls other
  moves : before.Moves after
  sends : after.Sends number

theorem coordinatorRely_closed : Rely (CoordinatorRely number) where
  refl state := ⟨rfl, .refl state⟩
  trans first second := ⟨second.history.trans first.history, first.moves.trans second.moves⟩

abbrev CallMeets {α : Type} (number : Nat) (post : Except Failure α → CoordinatorState → Prop) (handler : Handler α)
    (state : CoordinatorState) : Prop :=
  Handler.Meets (coordinatorExec number) (CoordinatorRely number) (CoordinatorGuarantee number) post handler state

def Call.IsNeutral (call : Call) : Prop := call.IsQuiet ∧ ∀ reservation, call ≠ .operations (.reserve reservation)

theorem Call.IsRead.neutral (call : Call) (isRead : call.IsRead) : call.IsNeutral := by
  cases isRead <;> exact ⟨fun _ => (nomatch ·), fun _ => (nomatch ·)⟩

theorem Call.Records.neutral {operationId : String} (call : Call) (records : call.Records operationId) :
    call.IsNeutral := by
  cases records with
  | touches touched =>
    cases touched with
    | read isRead => exact isRead.neutral
    | update => exact ⟨fun _ => (nomatch ·), fun _ => (nomatch ·)⟩
  | _ => exact ⟨fun _ => (nomatch ·), fun _ => (nomatch ·)⟩

theorem coordinatorExec_asked {op : Call} {answer : op.Answer} {before after : CoordinatorState}
    (called : coordinatorExec number op before answer after) (neutral : op.IsNeutral) :
    (after.calls number).asked = (before.calls number).asked := by
  cases op with
  | operations query =>
    rw [called.2.2, CoordinatorState.record_self]
    cases query with
    | reserve reservation => exact absurd rfl (neutral.2 reservation)
    | _ => rfl
  | run operationId => exact absurd rfl (neutral.1 operationId)
  | assertBuyerApproval =>
    cases called.1
    rfl
  | _ =>
    cases called
    rfl

structure CoordinatorState.Ready (state : CoordinatorState) (number : Nat) : Prop where
  asked : (state.calls number).asked = false
  started : (state.calls number).started = []
  owned : state.Owned

theorem CoordinatorState.Ready.stable {before after : CoordinatorState} (ready : before.Ready number)
    (moved : CoordinatorRely number before after) : after.Ready number :=
  ⟨moved.history ▸ ready.asked, moved.history ▸ ready.started, moved.moves.owned ready.owned⟩

theorem CoordinatorState.Ready.neutral {op : Call} {before after : CoordinatorState} {answer : op.Answer}
    (ready : before.Ready number) (neutral : op.IsNeutral) (called : coordinatorExec number op before answer after) :
    CoordinatorGuarantee number before after ∧ after.Ready number := by
  have moves := coordinatorExec_moves called
  have still : after.Ready number := ⟨(coordinatorExec_asked called neutral).trans ready.asked,
    (coordinatorExec_started called neutral.1).trans ready.started, moves.owned ready.owned⟩
  exact ⟨⟨fun _ => coordinatorExec_others called, moves, .inl still.started⟩, still⟩

theorem assertNow_meets {nowUnix : Option Int} {state : CoordinatorState} (ready : state.Ready number) :
    CallMeets number (fun result state => state.Ready number ∧
      ∀ failure, result = .error failure → failure.hasCode .idempotencyConflict = false) (assertNow nowUnix)
      state := by
  have code : ∀ {value : Int} {failure : Failure}, assertTrustedTime value = .error failure →
      failure.hasCode .idempotencyConflict = false := by
    intro value failure failed
    unfold assertTrustedTime at failed
    split at failed
    · cases failed
    · cases failed
      rfl
  have checked : ∀ {value : Int} {state : CoordinatorState}, state.Ready number →
      CallMeets number (fun result state => state.Ready number ∧
        ∀ failure, result = .error failure → failure.hasCode .idempotencyConflict = false)
        (liftM (assertTrustedTime value)) state :=
    fun ready => .lift fun s' moved => ⟨ready.stable moved, fun failure => code⟩
  cases nowUnix with
  | some given => exact checked ready
  | none =>
    refine .ask fun s' moved answer s'' called => ?_
    obtain ⟨mine, still⟩ := (ready.stable moved).neutral (Call.IsRead.neutral _ .unixNow) called
    exact ⟨mine, checked still⟩

def replayOutcome [Sha256] (input : ReserveInput) (reservation : Reservation) (stored : OperationRow) :
    Except Failure (OperationRecord × Bool) := do
  let existing ← parseOperationRow stored
  assertReplayIdentity existing input reservation.requestDigest reservation.commerceContract reservation.jobId
    input.context
  return (existing, true)

/-- Why a call failed without an answer about its key: its input is refused, or a
check before the reservation, or a statement. Only the first may look like a conflict. -/
inductive Refusal (input : ReserveInput) (trace : Trace) (failure : Failure) : Prop
  | invalid : trace.asked = false → (∀ reservation, ¬ ReservationOf input reservation) → Refusal input trace failure
  | early : trace.asked = false → failure.hasCode .idempotencyConflict = false → Refusal input trace failure
  | database : trace.failed = true → failure.hasCode .idempotencyConflict = false → Refusal input trace failure

/-- The row stored under a key, in some earlier state: its creator is known, and it
has kept its identity until now. -/
structure CoordinatorState.Stored (state : CoordinatorState) (key : String) (old : OperationRow) : Prop where
  created : ∃ id i reservation, state.creator id = some (i, reservation) ∧ reservation.row.Continues old
  now : ∃ row, state.table.getByIdempotencyKey key = some row ∧ old.Continues row

theorem CoordinatorState.Stored.stable {before after : CoordinatorState} {key : String} {old : OperationRow}
    (stored : before.Stored key old) (moves : before.Moves after) : after.Stored key old := by
  obtain ⟨⟨id, i, reservation, known, same⟩, row, found, continues⟩ := stored
  obtain ⟨next, atNext, still⟩ := moves.continues.byKey found
  exact ⟨⟨id, i, reservation, moves.extends' _ _ known, same⟩, next, atNext, continues.trans still⟩

inductive ReserveEnded [Sha256] (number : Nat) (input : ReserveInput) (state : CoordinatorState) :
    Except Failure (OperationRecord × Bool) → Prop
  | refused {failure} : (state.calls number).started = [] → Refusal input (state.calls number) failure →
      ReserveEnded number input state (.error failure)
  | created {operation reservation} : (state.calls number).started = [] →
      state.creator operation.id = some (number, reservation) →
      ReserveEnded number input state (.ok (operation, false))
  | replayed {reservation old} : (state.calls number).started = [] → ReservationOf input reservation →
      state.Stored reservation.idempotencyKey old →
      ReserveEnded number input state (replayOutcome input reservation old)

theorem ReserveEnded.stable [Sha256] {input : ReserveInput} {before after : CoordinatorState}
    {result : Except Failure (OperationRecord × Bool)} (moved : CoordinatorRely number before after)
    (ended : ReserveEnded number input before result) : ReserveEnded number input after result := by
  have history := moved.history
  cases ended with
  | refused unsent cause => exact .refused (history ▸ unsent) (history ▸ cause)
  | created unsent known => exact .created (history ▸ unsent) (moved.moves.extends' _ _ known)
  | replayed unsent given stored => exact .replayed (history ▸ unsent) given (stored.stable moved.moves)

/-- The lookup of a key that is taken finds a row, unless a statement fails. -/
theorem lookup_meets {key : String} {state : CoordinatorState} (normal : parseIdempotencyKey key = .ok key)
    (unsent : (state.calls number).started = []) (owned : state.Owned)
    (taken : ∃ row, state.table.getByIdempotencyKey key = some row) :
    CallMeets number (fun result state => (state.calls number).started = [] ∧
      ((∃ failure, result = .error failure ∧ (state.calls number).failed = true ∧
          failure.hasCode .idempotencyConflict = false) ∨
        ∃ old, state.Stored key old ∧ result = (parseOperationRow old).map some)) (getByIdempotencyKey key) state := by
  unfold getByIdempotencyKey getRecord
  refine .lift_bind (fun failure failed => absurd (normal.symm.trans failed) (by simp)) fun parsed same => ?_
  cases Except.ok.inj (normal.symm.trans same)
  refine .statement_bind fun s moved answer s' called => ?_
  have moves := coordinatorExec_moves called
  have still : (s'.calls number).started = [] := by
    rw [coordinatorExec_started called (fun _ => (nomatch ·)), moved.history, unsent]
  refine ⟨⟨fun _ => coordinatorExec_others called, moves, .inl still⟩, ?_⟩
  obtain ⟨answers, _, history⟩ := called
  obtain ⟨row, atRow⟩ := taken
  obtain ⟨next, atNext, _⟩ := moved.moves.continues.byKey atRow
  cases answer with
  | error failure =>
    intro s'' later
    rw [later.history]
    obtain ⟨message, rfl⟩ := answers.foreign
    refine ⟨still, .inl ⟨_, rfl, ?_, rfl⟩⟩
    rw [history, CoordinatorState.record_self]
    rfl
  | ok found =>
    obtain ⟨same, looked⟩ := answers.lookedUp
    rw [atNext] at looked
    subst looked
    have stored : s'.Stored key next := by
      have sound := moves.owned (moved.moves.owned owned)
      rw [← same] at atNext
      obtain ⟨i, reservation, known, continues⟩ :=
        sound.row next.id next (OperationTable.get_of_getByIdempotencyKey atNext)
      exact ⟨⟨_, i, reservation, known, continues⟩, next, atNext, .refl next⟩
    refine .lift_bind (fun failure unreadable s'' later => ?_) fun record readable => .pure fun s'' later => ?_
    · refine ⟨later.history ▸ still, .inr ⟨next, stored.stable later.moves, ?_⟩⟩
      rw [unreadable]
      rfl
    · refine ⟨later.history ▸ still, .inr ⟨next, stored.stable later.moves, ?_⟩⟩
      rw [readable]
      rfl

variable [Sha256]

theorem replayOutcome_of {input : ReserveInput} {reservation : Reservation} {stored : OperationRow}
    {existing : OperationRecord} (read : parseOperationRow stored = .ok existing) :
    replayOutcome input reservation stored = (assertReplayIdentity existing input reservation.requestDigest
      reservation.commerceContract reservation.jobId input.context).map fun _ => (existing, true) := by
  simp only [replayOutcome, read]
  rfl

theorem replayReserved_meets {input : ReserveInput} {reservation : Reservation} {state : CoordinatorState}
    (given : ReservationOf input reservation) (unsent : (state.calls number).started = []) (owned : state.Owned)
    (taken : ∃ row, state.table.getByIdempotencyKey reservation.idempotencyKey = some row) :
    CallMeets number (fun result state => ReserveEnded number input state result)
      (replayReserved input reservation input.context) state := by
  unfold replayReserved
  refine .bind coordinatorRely_closed
    ((lookup_meets (parseIdempotencyKey_again given.idempotencyKey) unsent owned taken).mono ?_)
  rintro result s ⟨still, ⟨failure, rfl, failed, code⟩ | ⟨old, stored, rfl⟩⟩
  · intro s' moved
    exact ReserveEnded.stable moved (.refused still (.database failed code))
  · have replayed := ReserveEnded.replayed still given stored
    cases read : parseOperationRow old with
    | error failure =>
      intro s' moved
      have outcome : replayOutcome input reservation old = .error failure := by
        simp only [replayOutcome, read]
        rfl
      exact ReserveEnded.stable moved (outcome ▸ replayed)
    | ok existing =>
      rw [replayOutcome_of read] at replayed
      refine .lift_bind (fun failure refused s' moved => ?_) fun _ allowed => .pure fun s' moved => ?_
      · rw [refused] at replayed
        exact ReserveEnded.stable moved replayed
      · rw [allowed] at replayed
        exact ReserveEnded.stable moved replayed

/-- A reservation ends in one of three ways, whatever the others do meanwhile. -/
theorem reserve_meets {input : ReserveInput} {state : CoordinatorState} (ready : state.Ready number) :
    CallMeets number (fun result state => ReserveEnded number input state result) (reserve input) state := by
  have invalid : ∀ (failure : Failure) (s s' : CoordinatorState), (∀ reservation, ¬ ReservationOf input reservation) →
      s.Ready number → CoordinatorRely number s s' → ReserveEnded number input s' (.error failure) :=
    fun failure s s' never ready moved =>
      ReserveEnded.stable moved (.refused ready.started (.invalid ready.asked never))
  unfold reserve
  refine .lift_bind (fun failure bad s' => invalid failure state s' (fun _ given => ?_) ready) fun key keyed => ?_
  · cases bad.symm.trans given.idempotencyKey
  refine .lift_bind (fun failure bad s' => invalid failure state s' (fun _ given => ?_) ready) fun digest digested => ?_
  · cases bad.symm.trans given.requestDigest
  refine .lift_bind (fun failure bad s' => invalid failure state s' (fun _ given => ?_) ready) fun contract normal => ?_
  · cases bad.symm.trans given.commerceContract
  refine .lift_bind (fun failure bad s' => invalid failure state s' (fun _ given => ?_) ready) fun jobId numbered => ?_
  · cases bad.symm.trans given.jobId
  refine .bind coordinatorRely_closed ((assertNow_meets ready).mono ?_)
  rintro (failure | now) s ⟨ready, code⟩
  · exact fun s' moved => ReserveEnded.stable moved (.refused ready.started (.early ready.asked (code failure rfl)))
  refine .lift_bind (fun failure bad s' => invalid failure s s' (fun _ given => ?_) ready) fun context read => ?_
  · cases bad.symm.trans given.parsed
  refine .ask fun s' moved id s'' called => ?_
  obtain ⟨mine, ready⟩ := (ready.stable moved).neutral (Call.IsRead.neutral _ .randomUuid) called
  refine ⟨mine, ?_⟩
  have same := parseContext_map_json read
  subst same
  have given : ReservationOf input ⟨id, key, digest, input.chainId, contract, jobId, input.kind, input.signerRole,
      input.context.map OperationContext.json, now⟩ := ⟨keyed, digested, rfl, normal, numbered, rfl, rfl, read, rfl⟩
  generalize (⟨id, key, digest, input.chainId, contract, jobId, input.kind, input.signerRole,
    input.context.map OperationContext.json, now⟩ : Reservation) = reservation at given ⊢
  refine .statement_bind fun middle moved answer after called => ?_
  have moves := coordinatorExec_moves called
  have sound := moved.moves.owned ready.owned
  have unsent : (after.calls number).started = [] := by
    rw [coordinatorExec_started called (fun _ => (nomatch ·)), moved.history, ready.started]
  refine ⟨⟨fun _ => coordinatorExec_others called, moves, .inl unsent⟩, ?_⟩
  obtain ⟨answers, creators, history⟩ := called
  cases answer with
  | error failure =>
    obtain ⟨message, rfl⟩ := answers.foreign
    refine fun s' later => ReserveEnded.stable later (.refused unsent (.database ?_ rfl))
    rw [history, CoordinatorState.record_self]
    rfl
  | ok found =>
    cases found with
    | none =>
      obtain ⟨same, taken⟩ := answers.conflicted
      exact replayReserved_meets given unsent (moves.owned sound) (same ▸ taken)
    | some row =>
      obtain ⟨rfl, absent, present⟩ := answers.reserved
      have unknown : middle.creator reservation.id = none := by
        by_contra known
        exact sound.known _ known absent
      have mine : after.creator reservation.id = some (number, reservation) := by
        rw [creators]
        unfold CoordinatorState.created
        rw [unknown, Option.none_or]
        exact if_pos ⟨rfl, by rw [present]; rfl⟩
      refine .lift_bind (fun failure unreadable => ?_) fun record read => .pure fun s' later => ?_
      · cases given.parse.symm.trans unreadable
      · cases Except.ok.inj (given.parse.symm.trans read)
        exact ReserveEnded.stable later (.created unsent mine)

end Bnbera
