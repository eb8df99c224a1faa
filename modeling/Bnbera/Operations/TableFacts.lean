import Bnbera.Operations.Table

namespace Bnbera

namespace OperationTable

variable {table : OperationTable} {id other key : String} {row : OperationRow}

theorem get_identity (found : table.get id = some row) : row.id = id :=
  ((KeyedRows.find?_eq_some_iff table.ids).mp found).2

theorem getByIdempotencyKey_key (found : table.getByIdempotencyKey key = some row) : row.idempotencyKey = key :=
  ((KeyedRows.find?_eq_some_iff table.keys).mp found).2

theorem get_of_getByIdempotencyKey (found : table.getByIdempotencyKey key = some row) :
    table.get row.id = some row :=
  (KeyedRows.find?_eq_some_iff table.ids).mpr ⟨((KeyedRows.find?_eq_some_iff table.keys).mp found).1, rfl⟩

theorem getByIdempotencyKey_of_get (found : table.get id = some row) :
    table.getByIdempotencyKey row.idempotencyKey = some row :=
  (KeyedRows.find?_eq_some_iff table.keys).mpr ⟨((KeyedRows.find?_eq_some_iff table.ids).mp found).1, rfl⟩

theorem get_modify (change : OperationUpdate) :
    (table.modify id change).get other = (table.get other).map (change.applyAt id) :=
  KeyedRows.find?_map fun row => (change.applyAt_identity id row).1

/-- An update that applies: its row is there, its guard holds and its values are accepted. -/
structure Updates (table : OperationTable) (id : String) (change : OperationUpdate) (row after : OperationRow) :
    Prop where
  found : table.get id = some row
  allowed : change.guard row = true
  written : change.set row = .ok after

theorem Updates.apply {change : OperationUpdate} {after : OperationRow} (done : Updates table id change row after) :
    change.applyAt id row = after := by
  rw [OperationUpdate.applyAt, if_pos (get_identity done.found), OperationUpdate.apply, if_pos done.allowed,
    done.written]

theorem Updates.update_eq {change : OperationUpdate} {after : OperationRow}
    (done : Updates table id change row after) :
    table.update id change = (.ok (some after), table.modify id change) := by
  simp only [update, done.found, done.allowed, if_true, done.written, Except.map]

theorem Updates.get_modify {change : OperationUpdate} {after : OperationRow}
    (done : Updates table id change row after) : (table.modify id change).get id = some after := by
  rw [OperationTable.get_modify, done.found, Option.map_some, done.apply]

theorem applyAt_of_ne {change : OperationUpdate} (differs : row.id ≠ id) : change.applyAt id row = row := by
  rw [OperationUpdate.applyAt, if_neg differs]

/-- An update either applies, or leaves the table alone and returns no row. -/
theorem update_cases (table : OperationTable) (id : String) (change : OperationUpdate) :
    (∃ row after, Updates table id change row after ∧
      table.update id change = (.ok (some after), table.modify id change)) ∨
    ((table.update id change).2.rows = table.rows ∧ ∀ row, (table.update id change).1 ≠ .ok (some row)) := by
  cases found : table.get id with
  | none =>
    right
    simp [update, found]
  | some row =>
    cases allowed : change.guard row with
    | false =>
      right
      simp [update, found, allowed]
    | true =>
      cases written : change.set row with
      | ok after =>
        have done : Updates table id change row after := ⟨found, allowed, written⟩
        exact .inl ⟨row, after, done, done.update_eq⟩
      | error failure =>
        right
        have kept : ∀ other ∈ table.rows, change.applyAt id other = other := by
          intro other member
          unfold OperationUpdate.applyAt
          split
          · rename_i same
            have unique : table.get id = some other :=
              (KeyedRows.find?_eq_some_iff table.ids).mpr ⟨member, same⟩
            cases Option.some.inj (found.symm.trans unique)
            rw [OperationUpdate.apply, if_pos allowed, written]
          · rfl
        refine ⟨?_, ?_⟩
        · simp only [update, found, allowed, if_true, modify]
          exact (List.map_congr_left kept).trans (List.map_id _)
        · simp [update, found, allowed, written, Except.map]

/-- An insertion that takes effect: both keys are new, and only the new row is added. -/
structure Inserts (table : OperationTable) (reservation : Reservation) (after : OperationTable) : Prop where
  freshKey : table.getByIdempotencyKey reservation.idempotencyKey = none
  freshId : table.get reservation.id = none
  get : ∀ id, after.get id = if reservation.id = id then some reservation.row else table.get id
  getByIdempotencyKey : ∀ key, after.getByIdempotencyKey key =
    if reservation.idempotencyKey = key then some reservation.row else table.getByIdempotencyKey key

theorem insert_cases (table : OperationTable) (reservation : Reservation) :
    (Inserts table reservation (table.insert reservation).2 ∧
      (table.insert reservation).1 = .ok (some reservation.row)) ∨
    ((∃ row, table.getByIdempotencyKey reservation.idempotencyKey = some row) ∧
      table.insert reservation = (.ok none, table)) ∨
    (∃ message, table.insert reservation = (.error (.foreign message), table)) := by
  unfold insert
  split
  · rename_i conflict
    right
    left
    refine ⟨?_, rfl⟩
    cases found : table.getByIdempotencyKey reservation.idempotencyKey with
    | none => exact absurd conflict (KeyedRows.find?_eq_none_iff.mp found)
    | some row => exact ⟨row, rfl⟩
  · rename_i fresh
    split
    · exact .inr (.inr ⟨_, rfl⟩)
    · rename_i untaken
      exact .inl ⟨⟨KeyedRows.find?_eq_none_iff.mpr fresh, KeyedRows.find?_eq_none_iff.mpr untaken,
        fun _ => KeyedRows.find?_append_fresh untaken, fun _ => KeyedRows.find?_append_fresh fresh⟩, rfl⟩

end OperationTable

namespace OperationQuery

inductive Effect (table : OperationTable) : OperationQuery → OperationTable → Prop
  | silent {query after} : (∀ id, after.get id = table.get id) →
      (∀ key, after.getByIdempotencyKey key = table.getByIdempotencyKey key) → Effect table query after
  | insert {reservation after} : table.Inserts reservation after → Effect table (.reserve reservation) after
  | update {id change row after} : table.Updates id change row after →
      Effect table (.update id change) (table.modify id change)

theorem run_effect (query : OperationQuery) (table : OperationTable) :
    Effect table query (query.run table).2 := by
  cases query with
  | reserve reservation =>
    rcases table.insert_cases reservation with ⟨inserted, _⟩ | ⟨_, same⟩ | ⟨_, same⟩
    · exact .insert inserted
    · exact .silent (fun _ => by simp only [run, same]) (fun _ => by simp only [run, same])
    · exact .silent (fun _ => by simp only [run, same]) (fun _ => by simp only [run, same])
  | update id change =>
    rcases table.update_cases id change with ⟨row, after, done, result⟩ | ⟨same, _⟩
    · simp only [run, result]
      exact .update done
    · exact .silent (fun _ => by simp only [run, OperationTable.get, same])
        (fun _ => by simp only [run, OperationTable.getByIdempotencyKey, same])
  | get id => exact .silent (fun _ => rfl) (fun _ => rfl)
  | getByIdempotencyKey key => exact .silent (fun _ => rfl) (fun _ => rfl)

theorem Answers.effect {query : OperationQuery} {table after : OperationTable}
    {answer : Except Failure (Option OperationRow)} (answers : Answers query table answer after) :
    Effect table query after := by
  cases answers with
  | answered => exact query.run_effect table
  | lost => exact .silent (fun _ => rfl) (fun _ => rfl)
  | unanswered => exact query.run_effect table

theorem Effect.row {query : OperationQuery} {table after : OperationTable} {id : String} {row : OperationRow}
    (effect : Effect table query after) (found : table.get id = some row) :
    after.get id = some row ∨
      ∃ change next, query = .update id change ∧ table.Updates id change row next ∧ after.get id = some next := by
  cases effect with
  | silent same => exact .inl ((same id).trans found)
  | insert inserted =>
    left
    rw [inserted.get, if_neg, found]
    rintro rfl
    cases found.symm.trans inserted.freshId
  | @update updated change old next done =>
    by_cases same : updated = id
    · subst same
      cases Option.some.inj (found.symm.trans done.found)
      exact .inr ⟨change, next, rfl, done, done.get_modify⟩
    · left
      rw [OperationTable.get_modify, found, Option.map_some, OperationTable.applyAt_of_ne]
      exact fun identity => same (identity.symm.trans (OperationTable.get_identity found))

theorem Effect.new_row {query : OperationQuery} {table after : OperationTable} {id : String} {row : OperationRow}
    (effect : Effect table query after) (absent : table.get id = none) (found : after.get id = some row) :
    ∃ reservation, query = .reserve reservation ∧ table.Inserts reservation after ∧
      reservation.id = id ∧ row = reservation.row := by
  cases effect with
  | silent same => cases found.symm.trans ((same id).trans absent)
  | @insert reservation _ inserted =>
    rw [inserted.get] at found
    split at found
    · rename_i same
      exact ⟨reservation, rfl, inserted, same, (Option.some.inj found).symm⟩
    · cases found.symm.trans absent
  | update done =>
    rw [OperationTable.get_modify, absent] at found
    cases found

/-- A statement fails only with an error of the database. -/
theorem Answers.foreign {query : OperationQuery} {table after : OperationTable} {failure : Failure}
    (answers : Answers query table (.error failure) after) : ∃ message, failure = .foreign message := by
  generalize answer : (Except.error failure : Except Failure (Option OperationRow)) = result at answers
  cases answers with
  | lost => exact ⟨_, Except.error.inj answer⟩
  | unanswered => exact ⟨_, Except.error.inj answer⟩
  | answered =>
    cases query with
    | reserve reservation =>
      rcases table.insert_cases reservation with ⟨_, result⟩ | ⟨_, same⟩ | ⟨message, same⟩
      · cases answer.trans result
      · simp [run, same] at answer
      · exact ⟨message, Except.error.inj (answer.trans (congrArg Prod.fst same))⟩
    | update id change =>
      simp only [run, OperationTable.update] at answer
      split at answer
      · cases answer
      · split at answer
        · rename_i row _ _
          cases written : change.set row with
          | ok next =>
            rw [written] at answer
            cases answer
          | error cause =>
            rw [written] at answer
            cases Except.error.inj answer
            exact OperationUpdate.set_error written
        · cases answer
    | get id => cases answer
    | getByIdempotencyKey key => cases answer

theorem Answers.reserved {reservation : Reservation} {table after : OperationTable} {row : OperationRow}
    (answers : Answers (.reserve reservation) table (.ok (some row)) after) :
    row = reservation.row ∧ table.get reservation.id = none ∧ after.get reservation.id = some reservation.row := by
  generalize answer : (Except.ok (some row) : Except Failure (Option OperationRow)) = result at answers
  cases answers with
  | lost => cases answer
  | unanswered => cases answer
  | answered =>
    rcases table.insert_cases reservation with ⟨inserted, result⟩ | ⟨_, same⟩ | ⟨_, same⟩
    · refine ⟨Option.some.inj (Except.ok.inj (answer.trans result)), inserted.freshId, ?_⟩
      exact (inserted.get _).trans (if_pos rfl)
    · simp [run, same] at answer
    · simp [run, same] at answer

theorem Answers.updated {id : String} {change : OperationUpdate} {table after : OperationTable} {row : OperationRow}
    (answers : Answers (.update id change) table (.ok (some row)) after) :
    ∃ old, table.Updates id change old row ∧ after.get id = some row := by
  generalize answer : (Except.ok (some row) : Except Failure (Option OperationRow)) = result at answers
  cases answers with
  | lost => cases answer
  | unanswered => cases answer
  | answered =>
    rcases table.update_cases id change with ⟨old, next, done, result⟩ | ⟨_, absent⟩
    · simp only [run, result, Except.ok.injEq, Option.some.injEq] at answer ⊢
      subst answer
      exact ⟨old, done, done.get_modify⟩
    · exact absurd answer.symm (absent row)

theorem Answers.conflicted {reservation : Reservation} {table after : OperationTable}
    (answers : Answers (.reserve reservation) table (.ok none) after) :
    after = table ∧ ∃ row, table.getByIdempotencyKey reservation.idempotencyKey = some row := by
  generalize answer : (Except.ok none : Except Failure (Option OperationRow)) = result at answers
  cases answers with
  | lost => cases answer
  | unanswered => cases answer
  | answered =>
    rcases table.insert_cases reservation with ⟨_, result⟩ | ⟨taken, same⟩ | ⟨_, same⟩
    · cases answer.trans result
    · exact ⟨by simp only [run, same], taken⟩
    · simp [run, same] at answer

theorem Answers.lookedUp {key : String} {table after : OperationTable} {found : Option OperationRow}
    (answers : Answers (.getByIdempotencyKey key) table (.ok found) after) :
    after = table ∧ found = table.getByIdempotencyKey key := by
  generalize answer : (Except.ok found : Except Failure (Option OperationRow)) = result at answers
  cases answers with
  | lost => cases answer
  | unanswered => cases answer
  | answered => exact ⟨rfl, Except.ok.inj answer⟩

end OperationQuery

end Bnbera
