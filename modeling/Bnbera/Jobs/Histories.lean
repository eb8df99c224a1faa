import Bnbera.Jobs.Alone
import Bnbera.Jobs.EventLog

namespace Bnbera

open Interleaving

structure KeepsLog (s : JobProcess) : Prop where
  logged : s.maps.Logged
  fresh : freshKeys s = s.maps.actions.entries.map Prod.fst
  turn : ∀ turn, s.turn = some turn → turn.snapshot.Logged ∧
    ((∀ answer, turn.transaction.work ≠ .done (.ok answer)) → SameLog turn.snapshot s.maps)

def IsMethodTurn (call : JobCall) (work : JobWork) : Prop := IsMethodWork call work ∨ ∃ result, work = .done result

theorem JobCall.idempotencyKey_trim {call : JobCall} {key : String} (given : call.idempotencyKey = some key) :
    trim key = key := by
  cases call with
  | create => exact Option.some.inj given ▸ trim_trim _
  | transition => exact Option.some.inj given ▸ trim_trim _
  | transaction => cases given
  | enqueue => cases given
  | update => cases given

theorem freshKeys_busy {s : JobProcess} (busy : finishing s.turn = []) :
    freshKeys s = s.returned.filterMap freshKey := by
  rw [freshKeys, busy, List.append_nil]

theorem freshKeys_finishing {s : JobProcess} {entry : JobCall × Except Failure JobAnswer}
    (ends : finishing s.turn = [entry]) :
    freshKeys s = s.returned.filterMap freshKey ++ [entry].filterMap freshKey := by
  rw [freshKeys, ends, List.filterMap_append]

theorem filterMap_stale {entry : JobCall × Except Failure JobAnswer} (stale : freshKey entry = none) :
    [entry].filterMap freshKey = [] := by
  rw [List.filterMap_cons, stale, List.filterMap_nil]

section
variable [Sha256] {repository : JobRepository} {s s' : JobProcess}

theorem Joins.methodWork {call : JobCall} {work : JobWork} (permitted : MethodRuns (.called call) s)
    (joined : repository.Joins call s.maps work) : IsMethodWork call work := by
  cases joined with
  | commits prepares =>
    obtain ⟨_, key, prepared⟩ := prepare_preparedFor prepares
    obtain ⟨fresh, actionKey, linked⟩ := prepared
    exact ⟨_, _, rfl, fresh, key.trans (congrArg some actionKey.symm), linked⟩
  | transaction => exact absurd rfl (permitted _)

theorem Reach.methodTurn (reach : repository.service.Reach MethodRuns (· = .empty) s) :
    ∀ turn, s.turn = some turn → IsMethodTurn turn.transaction.call turn.transaction.work := by
  refine reach.turn (fun s call work permitted joined => .inl (Joins.methodWork permitted joined)) ?_
  rintro call input next answer (⟨_, result, made, _⟩ | ⟨_, done⟩)
  · cases made
    cases answer with
    | ok => exact .inr ⟨_, rfl⟩
    | error => exact .inr ⟨_, rfl⟩
  · cases done

variable {snapshot maps : JobMemory} {since : Nat} {call : JobCall} {input : CommitInput}
  {next : Except Failure Unit → JobWork} {nowUnix : Int} {failure : Failure}

theorem KeepsLog.committed (keeps : KeepsLog s)
    (turn : s.turn = some ⟨snapshot, since, ⟨call, .call input next⟩⟩) (work : IsMethodTurn call (.call input next))
    (honest : NoCollision s.maps input) (committed : repository.commit nowUnix s.maps input = .ok maps) :
    KeepsLog { s with maps := maps, turn := some ⟨snapshot, since, ⟨call, next (.ok ())⟩⟩ } := by
  rcases work with ⟨_, answer, made, fresh, given, linked⟩ | ⟨_, done⟩
  · cases made
    have before : s.returned.filterMap freshKey = s.maps.actions.entries.map Prod.fst := by
      have busy : finishing s.turn = [] := by rw [turn]; rfl
      rw [← freshKeys_busy busy, keeps.fresh]
    obtain ⟨action, valid, _, _, noAction, rfl⟩ := commit_eq_ok.mp committed
    refine ⟨keeps.logged.committed linked honest committed, ?_, ?_⟩
    · have keys : (s.maps.committed action input).actions.entries.map Prod.fst =
          s.maps.actions.entries.map Prod.fst ++ [action.text] := OrderedMap.keys_set_fresh noAction
      have text : action.text = input.actionKey := valid.key.symm.trans (JobCall.idempotencyKey_trim given)
      have mine : [(call, Except.ok answer)].filterMap freshKey = [action.text] := by
        simp only [List.filterMap_cons, List.filterMap_nil, freshKey, fresh, if_true, given, text]
      have ends := @freshKeys_finishing { s with
        maps := s.maps.committed action input
        turn := some ⟨snapshot, since, ⟨call, .done (.ok answer)⟩⟩ } (call, .ok answer) rfl
      rw [mine, before, ← keys] at ends
      exact ends
    · intro turn' same
      obtain rfl := Option.some.inj same
      exact ⟨(keeps.turn _ turn).1, fun unfinished => absurd rfl (unfinished answer)⟩
  · cases done

omit [Sha256] in
theorem KeepsLog.refused (keeps : KeepsLog s)
    (turn : s.turn = some ⟨snapshot, since, ⟨call, .call input next⟩⟩) (work : IsMethodTurn call (.call input next)) :
    KeepsLog { s with turn := some ⟨snapshot, since, ⟨call, next (.error failure)⟩⟩ } := by
  rcases work with ⟨_, answer, made, _⟩ | ⟨_, done⟩
  · cases made
    refine ⟨keeps.logged, ?_, ?_⟩
    · have busy : finishing s.turn = [] := by rw [turn]; rfl
      have ends := @freshKeys_finishing
        { s with turn := some ⟨snapshot, since, ⟨call, .done (.error failure)⟩⟩ } (call, .error failure) rfl
      rw [filterMap_stale rfl, List.append_nil, ← freshKeys_busy busy, keeps.fresh] at ends
      exact ends
    · intro turn' same
      obtain rfl := Option.some.inj same
      exact ⟨(keeps.turn _ turn).1, fun _ => (keeps.turn _ turn).2 fun answer done => (nomatch done)⟩
  · cases done

/-- Every step of a run keeps the log. -/
theorem KeepsLog.step {moment : Moment JobCall CommitInput (Except Failure JobAnswer)} (keeps : KeepsLog s)
    (reach : repository.service.Reach MethodRuns (· = .empty) s)
    (permitted : MethodRuns moment s) (step : repository.service.Step moment s s') : KeepsLog s' := by
  cases step with
  | answered answered =>
    have same := Answers.sameLog answered
    refine ⟨same.logged keeps.logged, ?_, fun turn found => ⟨(keeps.turn turn found).1, fun unfinished => ?_⟩⟩
    · rw [same.2.2, ← keeps.fresh, freshKeys, freshKeys, List.filterMap_append, List.filterMap_append,
        List.filterMap_append, filterMap_stale (Answers.freshKey answered), List.append_nil]
    · have old := (keeps.turn turn found).2 unfinished
      exact ⟨same.1.trans old.1, same.2.1.trans old.2.1, same.2.2.trans old.2.2⟩
  | joined => exact ⟨keeps.logged, keeps.fresh, keeps.turn⟩
  | entered idle first =>
    have method := reach.waiting (fun s call work permitted joined => Joins.methodWork permitted joined) _
      (first ▸ List.mem_cons_self)
    rename_i transaction rest
    obtain ⟨call, work⟩ := transaction
    obtain ⟨input, answer, rfl, _⟩ := method
    have stay : s.returned.filterMap freshKey = s.maps.actions.entries.map Prod.fst := by
      have nobody : finishing s.turn = [] := by rw [idle]; rfl
      rw [← freshKeys_busy nobody, keeps.fresh]
    refine ⟨keeps.logged, ?_, ?_⟩
    · exact (@freshKeys_busy ⟨s.maps, rest, some ⟨s.maps, s.returned.length, ⟨call, commitThen input answer⟩⟩,
        s.returned⟩ rfl).trans stay
    · intro turn same
      obtain rfl := Option.some.inj same
      exact ⟨keeps.logged, fun _ => ⟨rfl, rfl, rfl⟩⟩
  | acted turn executed =>
    have work := Reach.methodTurn reach _ turn
    cases executed with
    | committed committed => exact keeps.committed turn work permitted committed
    | refused => exact keeps.refused turn work
  | kept turn passed =>
    rename_i _ _ call result
    have ends : finishing s.turn = [(call, result)] := by rw [turn]; rfl
    have before := (freshKeys_finishing ends).symm.trans keeps.fresh
    refine ⟨keeps.logged, ?_, fun turn same => (nomatch same)⟩
    rw [freshKeys_busy rfl, List.filterMap_append]
    exact before
  | undone turn failed =>
    rename_i call result
    obtain ⟨failure, rfl⟩ := failed
    have old := keeps.turn _ turn
    have same := old.2 fun answer done => (nomatch done)
    have ends : finishing s.turn = [(call, .error failure)] := by rw [turn]; rfl
    have before := (freshKeys_finishing ends).symm.trans keeps.fresh
    refine ⟨old.1, ?_, fun turn same => (nomatch same)⟩
    rw [freshKeys_busy rfl, List.filterMap_append, before]
    exact congrArg (fun actions : OrderedMap String ActionRecord => actions.entries.map Prod.fst) same.2.2

theorem Reach.keepsLog (reach : repository.service.Reach MethodRuns (· = .empty) s) : KeepsLog s := by
  induction reach with
  | start first =>
    subst first
    exact ⟨JobMemory.logged_empty, rfl, fun turn same => (nomatch same)⟩
  | next previous permitted step ih => exact ih.step previous permitted step

def IsSuccess (moment : Moment JobCall CommitInput (Except Failure JobAnswer)) (s : JobProcess) : Prop :=
  ∃ call input snapshot since answer, moment = .acted call input ∧ answer.fresh = true ∧
    s.turn = some ⟨snapshot, since, ⟨call, .done (.ok answer)⟩⟩

theorem Reach.sameLog {moment : Moment JobCall CommitInput (Except Failure JobAnswer)}
    (reach : repository.service.Reach MethodRuns (· = .empty) s)
    (step : repository.service.Step moment s s') : SameLog s.maps s'.maps ∨ IsSuccess moment s' := by
  cases step with
  | answered answered => exact .inl (Answers.sameLog answered)
  | joined => exact .inl ⟨rfl, rfl, rfl⟩
  | entered => exact .inl ⟨rfl, rfl, rfl⟩
  | acted turn executed =>
    rcases Reach.methodTurn reach _ turn with ⟨_, answer, made, fresh, _⟩ | ⟨_, done⟩
    · cases made
      cases executed with
      | committed => exact .inr ⟨_, _, _, _, answer, rfl, fresh, rfl⟩
      | refused => exact .inl ⟨rfl, rfl, rfl⟩
    · cases done
  | kept => exact .inl ⟨rfl, rfl, rfl⟩
  | undone turn failed =>
    obtain ⟨failure, rfl⟩ := failed
    have same := ((Reach.keepsLog reach).turn _ turn).2 fun answer done => (nomatch done)
    exact .inl ⟨same.1.symm, same.2.1.symm, same.2.2.symm⟩

end

section
attribute [local instance] nullSha256

end

end Bnbera
