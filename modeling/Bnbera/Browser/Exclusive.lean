import Bnbera.Browser.System

namespace Bnbera

open Interleaving OperationRepository

structure OperationRow.IsClaimable (row : OperationRow) : Prop where
  status : row.status = .awaitingSignature
  unclaimed : dispatchClaimedText row = "false"
  unsent : row.transactionHash = none

theorem dispatchClaimedText_setCallsId {row : OperationRow} {value : Json} {context : Option Json}
    (written : setContext row "callsId" value = .ok context) :
    dispatchClaimedText { row with context } = dispatchClaimedText row := by
  unfold setContext jsonbSet at written
  unfold dispatchClaimedText
  cases stored : row.context with
  | none =>
    rw [stored] at written
    cases Except.ok.inj written
    simp [jsonbText]
  | some old =>
    cases old with
    | obj fields =>
      rw [stored] at written
      cases Except.ok.inj written
      simp [jsonbText, fieldOf_setField]
    | _ => simp [stored] at written

theorem OperationUpdate.claimable_before {change : OperationUpdate} {row after : OperationRow}
    (recording : change.IsRecording) (written : change.set row = .ok after) (claimable : after.IsClaimable) :
    row.IsClaimable := by
  cases change with
  | attachJobId =>
    cases Except.ok.inj written
    exact ⟨claimable.status, claimable.unclaimed, claimable.unsent⟩
  | attachCallsId =>
    obtain ⟨context, stored, rfl⟩ := exists_context written
    exact ⟨claimable.status, (dispatchClaimedText_setCallsId stored).symm.trans claimable.unclaimed, claimable.unsent⟩
  | claimExternalDispatch => exact absurd rfl recording.1
  | releaseExternalDispatch => exact absurd rfl recording.2
  | markReceipt status =>
    cases Except.ok.inj written
    have awaiting := claimable.status
    cases status <;> cases awaiting
  | reconcile status =>
    cases Except.ok.inj written
    have awaiting := claimable.status
    cases status <;> cases awaiting
  | _ =>
    cases Except.ok.inj written
    have awaiting := claimable.status
    cases awaiting

/-- All dispatches but the last are released, and a row that can be claimed has no
dispatch outstanding. -/
structure DispatchState.Exclusive (state : DispatchState) : Prop where
  known : ∀ id, state.claims id ≠ [] → state.table.get id ≠ none
  rejected : ∀ id, ∀ dispatch ∈ state.released id, dispatch ∈ state.rejected
  earlier : ∀ id, ∀ dispatch ∈ (state.claims id).dropLast, dispatch ∈ state.released id
  idle : ∀ id row, state.table.get id = some row → row.IsClaimable → ∀ dispatch ∈ state.claims id,
    dispatch ∈ state.released id
  distinct : ∀ id, (state.claims id).Nodup

namespace DispatchState

variable {number : Nat} {request : BrowserRequest} {query : OperationQuery} {before : DispatchState}
  {after : OperationTable} {answer : Except Failure (Option OperationRow)} {id : String}

theorem Moved.updates {change : OperationUpdate} {table : OperationTable} (moved : Moved table after id)
    (answers : (OperationQuery.update id change).Answers table answer after) :
    ∃ row next, table.Updates id change row next ∧ after.get id = some next := by
  cases past : table.get id with
  | none =>
    cases now : after.get id with
    | none => simp [Moved, past, now] at moved
    | some next =>
      obtain ⟨_, impossible, _⟩ := answers.effect.new_row past now
      cases impossible
  | some row =>
    rcases answers.effect.row past with same | ⟨_, next, update, done, result⟩
    · simp [Moved, past, same] at moved
    · cases update
      exact ⟨row, next, done, result⟩

theorem claimed_cases (state : DispatchState) (number : Nat) (query : OperationQuery) (after : OperationTable)
    (id : String) :
    state.claimed number query after id = state.claims id ∨
      ∃ now, query = .update id (.claimExternalDispatch now) ∧ Moved state.table after id ∧
        state.claimed number query after id = state.claims id ++ [number] := by
  unfold claimed
  split
  · rename_i operationId now
    by_cases took : operationId = id ∧ Moved state.table after id
    · obtain ⟨rfl, moved⟩ := took
      exact .inr ⟨now, rfl, moved, if_pos ⟨rfl, moved⟩⟩
    · exact .inl (if_neg took)
  · exact .inl rfl

theorem releasedBy_cases (state : DispatchState) (request : BrowserRequest) (query : OperationQuery)
    (after : OperationTable) (id : String) :
    state.releasedBy request query after id = state.released id ∨
      ∃ operationId dispatch, request = .releaseExternalDispatch operationId dispatch ∧
        (∃ now, query = .update id (.releaseExternalDispatch now)) ∧
        state.releasedBy request query after id = state.released id ++ [dispatch] := by
  unfold releasedBy
  split
  · rename_i operationId dispatch updated now
    by_cases took : updated = id ∧ Moved state.table after id
    · obtain ⟨rfl, moved⟩ := took
      exact .inr ⟨operationId, dispatch, rfl, ⟨now, rfl⟩, if_pos ⟨rfl, moved⟩⟩
    · exact .inl (if_neg took)
  · exact .inl rfl

theorem released_subset (dispatch : Nat) (member : dispatch ∈ before.released id) :
    dispatch ∈ before.releasedBy request query after id := by
  rcases before.releasedBy_cases request query after id with same | ⟨_, _, _, _, more⟩
  · rwa [same]
  · rw [more]
    exact List.mem_append_left _ member

theorem claimable_of_guard {row : OperationRow} {now : UnixSeconds}
    (allowed : (OperationUpdate.claimExternalDispatch now).guard row = true) : row.IsClaimable := by
  simp only [OperationUpdate.guard, Bool.and_eq_true, beq_iff_eq] at allowed
  exact ⟨allowed.1.1, allowed.1.2, allowed.2⟩

structure Keeps (before : DispatchState) (number : Nat) (request : BrowserRequest) (query : OperationQuery) : Prop where
  timely : Timely before request query
  fresh : ∀ id now, query = .update id (.claimExternalDispatch now) → number ∉ before.claims id
  reported : ∀ id now, query = .update id (.releaseExternalDispatch now) →
    ∃ operationId dispatch, request = .releaseExternalDispatch operationId dispatch
  rejected : ∀ operationId dispatch, request = .releaseExternalDispatch operationId dispatch →
    dispatch ∈ before.rejected

theorem Exclusive.released (exclusive : before.Exclusive) (keeps : before.Keeps number request query)
    {row next : OperationRow} {now : UnixSeconds} (update : query = .update id (.releaseExternalDispatch now))
    (done : before.table.Updates id (.releaseExternalDispatch now) row next) (result : after.get id = some next)
    {dispatch : Nat} (member : dispatch ∈ before.claims id) : dispatch ∈ before.releasedBy request query after id := by
  obtain ⟨operationId, reported, rfl⟩ := keeps.reported id now update
  have last := keeps.timely operationId reported id now row rfl update done.found done.allowed
  obtain ⟨front, same⟩ := List.getLast?_eq_some_iff.mp last
  have moved : Moved before.table after id := by
    have status := done.allowed
    simp only [OperationUpdate.guard, Bool.and_eq_true, beq_iff_eq] at status
    obtain ⟨_, _, rfl⟩ := OperationUpdate.exists_context done.written
    simp [Moved, done.found, result, status.1.1.1]
  have logged : before.releasedBy (.releaseExternalDispatch operationId reported) query after id =
      before.released id ++ [reported] := by
    rw [update]
    exact if_pos ⟨rfl, moved⟩
  rw [logged, List.mem_append, List.mem_singleton]
  rw [same, List.mem_append, List.mem_singleton] at member
  rcases member with older | rfl
  · have dropped := exclusive.earlier id dispatch
    rw [same, List.dropLast_concat] at dropped
    exact .inl (dropped older)
  · exact .inr rfl

theorem Exclusive.log (exclusive : before.Exclusive) (answers : query.Answers before.table answer after)
    (keeps : before.Keeps number request query) : (before.log number request query after).Exclusive := by
  constructor
  · intro id claimed
    cases past : before.table.get id with
    | some row =>
      rcases answers.effect.row past with same | ⟨_, next, _, _, result⟩
      · exact same ▸ Option.some_ne_none row
      · exact result ▸ Option.some_ne_none next
    | none =>
      rcases before.claimed_cases number query after id with same | ⟨now, rfl, moved, _⟩
      · have kept : before.claims id ≠ [] := fun empty => claimed (same.trans empty)
        exact absurd past (exclusive.known id kept)
      · obtain ⟨row, _, done, _⟩ := moved.updates answers
        cases past.symm.trans done.found
  · intro id dispatch member
    rcases before.releasedBy_cases request query after id with same | ⟨operationId, reported, rfl, _, more⟩
    · exact exclusive.rejected id dispatch (same ▸ member)
    · have split : dispatch ∈ before.released id ++ [reported] := more ▸ member
      rcases List.mem_append.mp split with old | new
      · exact exclusive.rejected id dispatch old
      · rw [List.mem_singleton.mp new]
        exact keeps.rejected operationId reported rfl
  · intro id dispatch member
    rcases before.claimed_cases number query after id with same | ⟨now, rfl, moved, more⟩
    · exact released_subset dispatch (exclusive.earlier id dispatch (same ▸ member))
    · have front : dispatch ∈ (before.claims id ++ [number]).dropLast := more ▸ member
      rw [List.dropLast_concat] at front
      obtain ⟨row, next, done, _⟩ := moved.updates answers
      exact released_subset dispatch (exclusive.idle id row done.found (claimable_of_guard done.allowed) dispatch front)
  · intro id row found claimable dispatch member
    cases past : before.table.get id with
    | none =>
      have empty : before.claims id = [] := by
        by_contra claimed
        exact exclusive.known id claimed past
      rcases before.claimed_cases number query after id with same | ⟨now, rfl, moved, _⟩
      · have none : dispatch ∈ before.claims id := same ▸ member
        rw [empty] at none
        cases none
      · obtain ⟨old, _, done, _⟩ := moved.updates answers
        cases past.symm.trans done.found
    | some old =>
      rcases answers.effect.row past with same | ⟨change, next, update, done, result⟩
      · cases Option.some.inj (same.symm.trans found)
        rcases before.claimed_cases number query after id with kept | ⟨now, rfl, moved, _⟩
        · exact released_subset dispatch (exclusive.idle id row past claimable dispatch (kept ▸ member))
        · simp [Moved, past, same] at moved
      · cases Option.some.inj (result.symm.trans found)
        rcases before.claimed_cases number query after id with kept | ⟨now, claim, moved, _⟩
        · have older : dispatch ∈ before.claims id := kept ▸ member
          by_cases recording : change.IsRecording
          · exact released_subset dispatch
              (exclusive.idle id old past (OperationUpdate.claimable_before recording done.written claimable) dispatch older)
          · cases change with
            | releaseExternalDispatch now => exact exclusive.released keeps update done result older
            | claimExternalDispatch now =>
              obtain ⟨_, _, rfl⟩ := OperationUpdate.exists_context done.written
              cases claimable.status
            | _ => exact absurd ⟨(nomatch ·), (nomatch ·)⟩ recording
        · cases update.symm.trans claim
          obtain ⟨_, _, rfl⟩ := OperationUpdate.exists_context done.written
          cases claimable.status
  · intro id
    rcases before.claimed_cases number query after id with same | ⟨now, update, _, more⟩
    · change (before.claimed number query after id).Nodup
      rw [same]
      exact exclusive.distinct id
    · change (before.claimed number query after id).Nodup
      rw [more]
      exact List.nodup_append.mpr ⟨exclusive.distinct id, List.nodup_singleton _, fun old member new fresh same =>
        keeps.fresh id now update (List.mem_singleton.mp fresh ▸ same ▸ member)⟩

end DispatchState

end Bnbera
