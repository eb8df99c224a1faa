import Bnbera.Operations.Context
import Bnbera.Operations.TableFacts
import Bnbera.Operations.Footprint

namespace Bnbera

structure OperationContext.Agrees (context other : OperationContext) : Prop where
  signerAddress : other.signerAddress = context.signerAddress
  sdkAction : other.sdkAction = context.sdkAction
  parameters : other.parameters = context.parameters
  expectation : other.expectation = context.expectation

theorem OperationContext.Agrees.refl (context : OperationContext) : context.Agrees context := ⟨rfl, rfl, rfl, rfl⟩

theorem OperationContext.Agrees.trans {context middle other : OperationContext} (first : context.Agrees middle)
    (second : middle.Agrees other) : context.Agrees other where
  signerAddress := second.signerAddress.trans first.signerAddress
  sdkAction := second.sdkAction.trans first.sdkAction
  parameters := second.parameters.trans first.parameters
  expectation := second.expectation.trans first.expectation

structure OperationRow.Continues (row after : OperationRow) : Prop where
  id : after.id = row.id
  idempotencyKey : after.idempotencyKey = row.idempotencyKey
  requestDigest : after.requestDigest = row.requestDigest
  chainId : after.chainId = row.chainId
  commerceContract : after.commerceContract = row.commerceContract
  kind : after.kind = row.kind
  signerRole : after.signerRole = row.signerRole
  jobId : ∀ jobId, row.jobId = some jobId → after.jobId = some jobId
  context : ∀ context, parseContext row.context = .ok (some context) →
    ∃ next, parseContext after.context = .ok (some next) ∧ context.Agrees next

theorem OperationRow.Continues.refl (row : OperationRow) : row.Continues row :=
  ⟨rfl, rfl, rfl, rfl, rfl, rfl, rfl, fun _ known => known, fun context parsed => ⟨context, parsed, .refl context⟩⟩

theorem OperationRow.Continues.trans {row middle after : OperationRow} (first : row.Continues middle)
    (second : middle.Continues after) : row.Continues after where
  id := second.id.trans first.id
  idempotencyKey := second.idempotencyKey.trans first.idempotencyKey
  requestDigest := second.requestDigest.trans first.requestDigest
  chainId := second.chainId.trans first.chainId
  commerceContract := second.commerceContract.trans first.commerceContract
  kind := second.kind.trans first.kind
  signerRole := second.signerRole.trans first.signerRole
  jobId jobId known := second.jobId jobId (first.jobId jobId known)
  context context parsed := by
    obtain ⟨next, atMiddle, agrees⟩ := first.context context parsed
    obtain ⟨last, atLast, still⟩ := second.context next atMiddle
    exact ⟨last, atLast, agrees.trans still⟩

theorem parseContext_eq_some {column : Option Json} {context : OperationContext} :
    parseContext column = .ok (some context) ↔
      ∃ fields, column = some (.obj fields) ∧ parseContextFields fields = .ok context := by
  constructor
  · intro parsed
    unfold parseContext at parsed
    split at parsed
    · cases parsed
    · cases parsed
    · rename_i fields
      refine ⟨fields, rfl, ?_⟩
      cases read : parseContextFields fields with
      | error failure =>
        rw [read] at parsed
        cases parsed
      | ok context =>
        rw [read] at parsed
        cases Option.some.inj (Except.ok.inj parsed)
        rfl
    · cases parsed
  · rintro ⟨fields, rfl, parsed⟩
    simp only [parseContext, parsed, Except.map]

theorem setContext_agrees {row : OperationRow} {key : String} {value : Json} {column : Option Json}
    (written : setContext row key value = .ok column)
    (reads : ∀ fields context, parseContextFields fields = .ok context →
      ∃ next, parseContextFields (setField fields key value) = .ok next ∧ context.Agrees next)
    (context : OperationContext) (parsed : parseContext row.context = .ok (some context)) :
    ∃ next, parseContext column = .ok (some next) ∧ context.Agrees next := by
  obtain ⟨fields, stored, read⟩ := parseContext_eq_some.mp parsed
  obtain ⟨next, again, agrees⟩ := reads fields context read
  simp only [setContext, stored, jsonbSet, Except.ok.injEq] at written
  exact ⟨next, parseContext_eq_some.mpr ⟨_, written.symm, again⟩, agrees⟩

theorem OperationUpdate.context_agrees {change : OperationUpdate} {row after : OperationRow}
    (written : change.set row = .ok after) (context : OperationContext)
    (parsed : parseContext row.context = .ok (some context)) :
    ∃ next, parseContext after.context = .ok (some next) ∧ context.Agrees next := by
  cases change with
  | attachCallsId callsId =>
    obtain ⟨column, stored, rfl⟩ := exists_context written
    exact setContext_agrees stored (fun fields context read =>
      ⟨_, parseContextFields_setCallsId read callsId, rfl, rfl, rfl, rfl⟩) context parsed
  | claimExternalDispatch | releaseExternalDispatch =>
    obtain ⟨column, stored, rfl⟩ := exists_context written
    exact setContext_agrees stored (fun fields context read =>
      ⟨_, parseContextFields_setDispatchClaimed read _, rfl, rfl, rfl, rfl⟩) context parsed
  | _ =>
    cases Except.ok.inj written
    exact ⟨context, parsed, .refl context⟩

theorem OperationUpdate.continues {change : OperationUpdate} {row after : OperationRow}
    (allowed : change.guard row = true) (written : change.set row = .ok after) : row.Continues after := by
  obtain ⟨id, key, digest, chain, contract, kind, role, _⟩ := set_identity written
  refine ⟨id, key, digest, chain, contract, kind, role, fun jobId known => ?_, context_agrees written⟩
  cases change with
  | attachJobId =>
    simp only [guard, beq_iff_eq] at allowed
    rw [allowed] at known
    cases known
  | attachCallsId | claimExternalDispatch | releaseExternalDispatch =>
    obtain ⟨column, _, rfl⟩ := exists_context written
    exact known
  | _ =>
    cases Except.ok.inj written
    exact known

def OperationTable.Continues (before after : OperationTable) : Prop :=
  ∀ id row, before.get id = some row → ∃ next, after.get id = some next ∧ row.Continues next

namespace OperationTable.Continues

variable {before middle after : OperationTable}

theorem refl (table : OperationTable) : table.Continues table := fun _ row found => ⟨row, found, .refl row⟩

theorem trans (first : before.Continues middle) (second : middle.Continues after) : before.Continues after := by
  intro id row found
  obtain ⟨next, atMiddle, same⟩ := first id row found
  obtain ⟨last, atLast, still⟩ := second id next atMiddle
  exact ⟨last, atLast, same.trans still⟩

theorem byKey {key : String} {row : OperationRow} (continues : before.Continues after)
    (found : before.getByIdempotencyKey key = some row) :
    ∃ next, after.getByIdempotencyKey key = some next ∧ row.Continues next := by
  obtain ⟨next, atNext, same⟩ := continues row.id row (get_of_getByIdempotencyKey found)
  have key' : next.idempotencyKey = key := same.idempotencyKey.trans (getByIdempotencyKey_key found)
  exact ⟨next, key' ▸ getByIdempotencyKey_of_get atNext, same⟩

end OperationTable.Continues

theorem OperationQuery.Answers.continues {query : OperationQuery} {before after : OperationTable}
    {answer : Except Failure (Option OperationRow)} (answers : Answers query before answer after) :
    before.Continues after := by
  intro id row found
  rcases answers.effect.row found with same | ⟨change, next, _, done, result⟩
  · exact ⟨row, same, .refl row⟩
  · exact ⟨next, result, OperationUpdate.continues done.allowed done.written⟩

section

open Interleaving

theorem parseIdempotencyKey_again {value key : String} (parsed : parseIdempotencyKey value = .ok key) :
    parseIdempotencyKey key = .ok key := by
  unfold parseIdempotencyKey at parsed
  split at parsed
  · rename_i accepted
    cases Except.ok.inj parsed
    simp only [parseIdempotencyKey, trim_trim, accepted]
  · cases parsed

theorem parseContext_json {context : OperationContext} {parsed : Option OperationContext}
    (read : parseContext (some context.json) = .ok parsed) : parsed = some context := by
  have fields : ∃ found, parseContextFields context.fields = .ok found ∧ parsed = some found := by
    cases read' : parseContextFields context.fields with
    | error failure => simp [parseContext, OperationContext.json, read', Except.map] at read
    | ok found =>
      refine ⟨found, rfl, ?_⟩
      simp only [parseContext, OperationContext.json, read', Except.map, Except.ok.injEq] at read
      exact read.symm
  obtain ⟨found, stored, rfl⟩ := fields
  have safe := (parseContextFields_eq_ok.mp stored).1
  have again : parseContextFields context.fields = .ok context := parseContextFields_fields fun given known => by
    have field : fieldOf context.fields "parameters" = some (.obj given) := by
      simp [OperationContext.fields, fieldOf_entry_append, fieldOf_entry, known]
    exact assertFieldsSafe_field safe field
  exact congrArg some (Except.ok.inj (stored.symm.trans again))

theorem parseContext_map_json {context parsed : Option OperationContext}
    (read : parseContext (context.map OperationContext.json) = .ok parsed) : parsed = context := by
  cases context with
  | none => exact (Except.ok.inj read).symm
  | some context => exact parseContext_json read

/-- The values that `reserve` stores for an input: every field normalized and checked. -/
structure ReservationOf (input : ReserveInput) (reservation : Reservation) : Prop where
  idempotencyKey : parseIdempotencyKey input.idempotencyKey = .ok reservation.idempotencyKey
  requestDigest : assertDigest input.requestDigest "Operation request digest" = .ok reservation.requestDigest
  chainId : reservation.chainId = input.chainId
  commerceContract : normalizeAddress input.commerceContract "commerce contract" = .ok reservation.commerceContract
  jobId : assertJobId input.jobId = .ok reservation.jobId
  kind : reservation.kind = input.kind
  signerRole : reservation.signerRole = input.signerRole
  parsed : parseContext (input.context.map OperationContext.json) = .ok input.context
  context : reservation.context = input.context.map OperationContext.json

theorem ReservationOf.parse {input : ReserveInput} {reservation : Reservation}
    (given : ReservationOf input reservation) :
    parseOperationRow reservation.row = .ok { reservation.row with context := input.context } := by
  have read : parseContext reservation.row.context = .ok input.context := (congrArg parseContext given.context).trans given.parsed
  simp only [parseOperationRow, read, Except.map]

inductive Call.Reserves (input : ReserveInput) : Call → Prop
  | read {call} : call.IsRead → Reserves input call
  | reserve {reservation} : ReservationOf input reservation → Reserves input (.operations (.reserve reservation))

theorem OperationRepository.getByIdempotencyKey_only {key : String} :
    (getByIdempotencyKey key).Only Call.IsRead := by
  unfold getByIdempotencyKey
  exact .lift_bind fun _ _ => getRecord_only .getByIdempotencyKey

theorem OperationRepository.replayReserved_only [Sha256] {input : ReserveInput} {reservation : Reservation}
    {context : Option OperationContext} : (replayReserved input reservation context).Only Call.IsRead := by
  unfold replayReserved
  refine .bind getByIdempotencyKey_only ?_
  rintro (_ | existing)
  · exact .lift _
  · exact .bind (.lift _) fun _ => .pure _

theorem OperationRepository.reserve_only [Sha256] {input : ReserveInput} :
    (reserve input).Only (Call.Reserves input) := by
  unfold reserve
  refine .lift_bind fun key keyed => .lift_bind fun digest digested => .lift_bind fun contract normal => ?_
  refine .lift_bind fun jobId numbered => ?_
  refine .bind (assertNow_only.mono fun _ => .read) fun now => ?_
  refine .lift_bind fun context read => .bind (.ask (.read .randomUuid)) fun id => ?_
  have same := parseContext_map_json read
  subst same
  refine .bind (.statement (.reserve ⟨keyed, digested, rfl, normal, numbered, rfl, rfl, read, rfl⟩)) ?_
  rintro (_ | row)
  · exact replayReserved_only.mono fun _ => .read
  · exact .bind (.lift _) fun _ => .pure _

end

end Bnbera
