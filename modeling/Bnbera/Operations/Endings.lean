import Bnbera.Operations.Evidence

namespace Bnbera

open Interleaving

/-- A run that nobody disturbs, on a healthy database. Every call that leaves the
table may be answered in any of the given ways. -/
def aloneExec (answers : (call : Call) → call.Answer → Prop) : Semantics Call Call.Answer OperationTable
  | .operations query, before, answer, after => answer = (query.run before).1 ∧ after = (query.run before).2
  | call, before, answer, after => answers call answer ∧ after = before

/-- Every undisturbed run of the handler ends as `post` says. -/
structure Handler.Ends {α : Type} (answers : (call : Call) → call.Answer → Prop)
    (post : Except Failure α → OperationTable → Prop) (handler : Handler α) (table : OperationTable) : Prop where
  runs : ∀ result after, Runs (aloneExec answers) handler.run table result after → post result after

namespace Handler.Ends

variable {α β : Type} {answers : (call : Call) → call.Answer → Prop} {table : OperationTable}

theorem pure {post : Except Failure α → OperationTable → Prop} {value : α} (holds : post (.ok value) table) :
    Handler.Ends answers post (Pure.pure value) table := by
  constructor
  intro result after run
  obtain ⟨rfl, rfl⟩ := Runs.done_iff.mp run
  exact holds

theorem throw {post : Except Failure α → OperationTable → Prop} {failure : Failure}
    (holds : post (.error failure) table) : Handler.Ends answers post (throwThe Failure failure) table := by
  constructor
  intro result after run
  obtain ⟨rfl, rfl⟩ := Runs.done_iff.mp run
  exact holds

theorem lift {post : Except Failure α → OperationTable → Prop} {result : Except Failure α} (holds : post result table) :
    Handler.Ends answers post (liftM result) table := by
  constructor
  intro result after run
  obtain ⟨rfl, rfl⟩ := Runs.done_iff.mp run
  exact holds

theorem mono {post weaker : Except Failure α → OperationTable → Prop} {handler : Handler α}
    (ends : Handler.Ends answers post handler table) (implies : ∀ result after, post result after → weaker result after) :
    Handler.Ends answers weaker handler table :=
  ⟨fun result after run => implies result after (ends.runs result after run)⟩

theorem bind {post : Except Failure β → OperationTable → Prop} {handler : Handler α} {after : α → Handler β}
    (first : Handler.Ends answers (fun result table => match result with
      | .ok value => Handler.Ends answers post (after value) table
      | .error failure => post (.error failure) table) handler table) :
    Handler.Ends answers post (handler >>= after) table := by
  constructor
  intro result last run
  rcases Runs.except_bind_iff.mp run with ⟨failure, failed, rfl⟩ | ⟨value, middle, done, rest⟩
  · exact first.runs _ _ failed
  · exact (first.runs _ _ done).runs _ _ rest

theorem lift_bind {post : Except Failure β → OperationTable → Prop} {result : Except Failure α} {value : α}
    {after : α → Handler β} (known : result = .ok value) (rest : Handler.Ends answers post (after value) table) :
    Handler.Ends answers post (do let value ← result; after value) table := by
  subst known
  exact ⟨rest.runs⟩

theorem catch' {post : Except Failure α → OperationTable → Prop} {handler : Handler α}
    {handle : Failure → Handler α} (first : Handler.Ends answers (fun result table => match result with
      | .ok value => post (.ok value) table
      | .error failure => Handler.Ends answers post (handle failure) table) handler table) :
    Handler.Ends answers post (tryCatch handler handle) table := by
  constructor
  intro result last run
  obtain ⟨value, middle, done, rest⟩ := Runs.bind_iff.mp run
  have ended := first.runs _ _ done
  cases value with
  | error failure => exact ended.runs _ _ rest
  | ok value =>
    obtain ⟨rfl, rfl⟩ := Runs.done_iff.mp rest
    exact ended

theorem statement_bind {post : Except Failure β → OperationTable → Prop} {query : OperationQuery}
    {found : Option OperationRow} {later : OperationTable} {after : Option OperationRow → Handler β}
    (result : query.run table = (.ok found, later)) (rest : Handler.Ends answers post (after found) later) :
    Handler.Ends answers post (do let found ← Handler.statement query; after found) table := by
  constructor
  intro final last run
  obtain ⟨answer, middle, called, ran⟩ := Runs.call_iff.mp run
  obtain ⟨rfl, rfl⟩ := called
  rw [result] at ran
  exact rest.runs _ _ ran

theorem of_call {post : Except Failure α → OperationTable → Prop} {handler : Handler α} {call : Call}
    {next : call.Answer → Program Call Call.Answer (Except Failure α)} (first : handler.run = .call call next)
    (outside : ∀ query, call ≠ .operations query)
    (rest : ∀ answer, answers call answer → Handler.Ends answers post (ExceptT.mk (next answer)) table) :
    Handler.Ends answers post handler table := by
  constructor
  intro result after run
  rw [first] at run
  obtain ⟨answer, middle, called, ran⟩ := Runs.call_iff.mp run
  have quiet : answers call answer ∧ middle = table := by
    cases call with
    | operations query => exact absurd rfl (outside query)
    | _ => exact called
  obtain ⟨allowed, rfl⟩ := quiet
  exact (rest answer allowed).runs _ _ ran

theorem only {allowed : Call → Prop} {holds : OperationTable → Prop} {handler : Handler α} (only : handler.Only allowed)
    (kept : ∀ op s answer s', allowed op → aloneExec answers op s answer s' → holds s → holds s')
    (start : holds table) : Handler.Ends answers (fun _ table => holds table) handler table :=
  ⟨fun _ _ run => Runs.invariant kept only.calls run start⟩

end Handler.Ends

def ClockRuns (answers : (call : Call) → call.Answer → Prop) : Prop :=
  ∀ shown, answers .unixNow shown → ∃ now : UnixSeconds, shown = now.value

section

variable {answers : (call : Call) → call.Answer → Prop} {table : OperationTable} {id : String}
  {row after : OperationRow} {record : OperationRecord}

theorem within?_value {low high : Int} (value : Within low high) : within? low high value.value = some value :=
  dif_pos ⟨value.low_le, value.le_high⟩

theorem assertNow_ends (clock : ClockRuns answers) :
    (assertNow none).Ends answers (fun result after => (∃ now, result = .ok now) ∧ after = table) table := by
  constructor
  intro result last run
  obtain ⟨shown, middle, called, ran⟩ := Runs.call_iff.mp run
  obtain ⟨allowed, rfl⟩ := called
  obtain ⟨now, rfl⟩ := clock shown allowed
  obtain ⟨rfl, rfl⟩ := Runs.done_iff.mp ran
  refine ⟨⟨now, ?_⟩, rfl⟩
  change assertTrustedTime now.value = _
  simp only [assertTrustedTime, within?_value]

theorem parseOperationRow_ok {context : Option OperationContext} (read : parseContext row.context = .ok context) :
    parseOperationRow row = .ok { row with context } := by
  simp only [parseOperationRow, read, Except.map]

namespace OperationRepository

theorem get_ends (found : table.get id = some row) (parsed : parseOperationRow row = .ok record) :
    (get id).Ends answers (fun result after => result = .ok (some record) ∧ after = table) table := by
  unfold get getRecord
  refine .statement_bind (congrArg (fun row => (Except.ok row, table)) found) ?_
  exact .lift_bind parsed (.pure ⟨rfl, rfl⟩)

theorem get_unreadable {failure : Failure} (found : table.get id = some row)
    (unreadable : parseOperationRow row = .error failure) :
    (get id).Ends answers (fun result after => result = .error failure ∧ after = table) table := by
  unfold get getRecord
  refine .statement_bind (congrArg (fun row => (Except.ok row, table)) found) ?_
  dsimp only
  rw [unreadable]
  exact .bind (.lift ⟨rfl, rfl⟩)

variable {change : UnixSeconds → OperationUpdate} {replays : OperationRecord → Bool} {refusal : String}

theorem updateOrReplay_applied {update : OperationUpdate} (done : table.Updates id update row after)
    (parsed : parseOperationRow after = .ok record) :
    (updateOrReplay id update replays refusal).Ends answers
      (fun result later => result = .ok record ∧ later = table.modify id update) table := by
  unfold updateOrReplay
  refine .statement_bind done.update_eq ?_
  dsimp only
  rw [parsed]
  exact .lift ⟨rfl, rfl⟩

theorem updateOrReplay_refused {update : OperationUpdate} (found : table.get id = some row)
    (refused : update.guard row = false) (parsed : parseOperationRow row = .ok record) :
    (updateOrReplay id update replays refusal).Ends answers (fun result later => later = table ∧
      result = if replays record then .ok record else throwCommerce .idempotencyConflict refusal) table := by
  have unapplied : (OperationQuery.update id update).run table = (.ok none, table) := by
    simp only [OperationQuery.run, OperationTable.update, found, refused, Bool.false_eq_true, if_false]
  unfold updateOrReplay
  refine .statement_bind unapplied (.bind ((get_ends found parsed).mono ?_))
  rintro result later ⟨rfl, rfl⟩
  dsimp only
  split
  · exact .pure ⟨rfl, rfl⟩
  · exact .lift ⟨rfl, rfl⟩

theorem timed_applied (next : UnixSeconds → OperationRow) (clock : ClockRuns answers) (found : table.get id = some row)
    (allowed : ∀ now, (change now).guard row = true) (written : ∀ now, (change now).set row = .ok (next now))
    (readable : ∀ now, ∃ record, parseOperationRow (next now) = .ok record) :
    (do let now ← assertNow none; updateOrReplay id (change now) replays refusal : Handler OperationRecord).Ends answers
      (fun result later => ∃ now record, later.get id = some (next now) ∧ parseOperationRow (next now) = .ok record ∧
        result = .ok record) table := by
  refine .bind ((assertNow_ends clock).mono ?_)
  rintro result later ⟨⟨now, rfl⟩, rfl⟩
  obtain ⟨record, parsed⟩ := readable now
  have done : later.Updates id (change now) row (next now) := ⟨found, allowed now, written now⟩
  refine (updateOrReplay_applied done parsed).mono ?_
  rintro result after ⟨rfl, rfl⟩
  exact ⟨now, record, done.get_modify, parsed, rfl⟩

theorem timed_refused (clock : ClockRuns answers) (found : table.get id = some row)
    (refused : ∀ now, (change now).guard row = false) (parsed : parseOperationRow row = .ok record) :
    (do let now ← assertNow none; updateOrReplay id (change now) replays refusal : Handler OperationRecord).Ends answers
      (fun result later => later = table ∧
        result = if replays record then .ok record else throwCommerce .idempotencyConflict refusal) table := by
  refine .bind ((assertNow_ends clock).mono ?_)
  rintro result later ⟨⟨now, rfl⟩, rfl⟩
  exact updateOrReplay_refused found (refused now) parsed

end OperationRepository

end

end Bnbera
