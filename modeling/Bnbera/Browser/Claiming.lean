import Bnbera.Browser.Exclusive
import Bnbera.Operations.TableFacts
import Bnbera.Coordinator.AtMostOnce

namespace Bnbera

section

open Interleaving OperationRepository

variable {number : Nat} {request : BrowserRequest}

structure DispatchRely (number : Nat) (before after : DispatchState) : Prop where
  mine : ∀ id, number ∈ after.claims id ↔ number ∈ before.claims id
  rejected : ∀ dispatch ∈ before.rejected, dispatch ∈ after.rejected

structure DispatchGuarantee (number : Nat) (before after : DispatchState) : Prop where
  exclusive : before.Exclusive → after.Exclusive
  others : ∀ other, other ≠ number → ∀ id, other ∈ after.claims id ↔ other ∈ before.claims id
  rejected : after.rejected = before.rejected

theorem dispatchRely_closed : Rely (DispatchRely number) where
  refl _ := ⟨fun _ => Iff.rfl, fun _ member => member⟩
  trans first second := ⟨fun id => (second.mine id).trans (first.mine id),
    fun dispatch member => second.rejected dispatch (first.rejected dispatch member)⟩

theorem DispatchGuarantee.refl (state : DispatchState) : DispatchGuarantee number state state :=
  ⟨fun exclusive => exclusive, fun _ _ _ => Iff.rfl, rfl⟩

abbrev BrowserMeets {α : Type} (number : Nat) (request : BrowserRequest)
    (post : Except Failure α → DispatchState → Prop) (handler : Handler α) (state : DispatchState) : Prop :=
  Handler.Meets (browserExec Timely number request) (DispatchRely number) (DispatchGuarantee number) post handler state

def BrowserRequest.Reports (request : BrowserRequest) (state : DispatchState) : Prop :=
  ∀ operationId dispatch, request = .releaseExternalDispatch operationId dispatch → dispatch ∈ state.rejected

theorem DispatchState.log_guarantee {before : DispatchState} {query : OperationQuery} {after : OperationTable}
    {answer : Except Failure (Option OperationRow)} (answers : query.Answers before.table answer after)
    (keeps : before.Keeps number request query) :
    DispatchGuarantee number before (before.log number request query after) where
  exclusive exclusive := exclusive.log answers keeps
  others other differs id := by
    rcases before.claimed_cases number query after id with same | ⟨_, _, _, more⟩
    · exact iff_of_eq (congrArg (other ∈ ·) same)
    · change other ∈ before.claimed number query after id ↔ _
      rw [more, List.mem_append, List.mem_singleton]
      exact or_iff_left differs
  rejected := rfl

theorem browserExec_leaves {op : Call} {answer : op.Answer} {before after : DispatchState}
    (called : browserExec Timely number request op before answer after) (leaves : op.LeavesDispatch)
    (reports : request.Reports before) :
    DispatchGuarantee number before after ∧ after.claims = before.claims ∧ after.rejected = before.rejected := by
  cases op with
  | operations query =>
    obtain ⟨timely, table, answers, rfl⟩ := called
    refine ⟨DispatchState.log_guarantee answers ⟨timely, ?_, ?_, reports⟩, funext fun id => ?_, rfl⟩
    · rintro id now rfl
      exact absurd rfl (leaves id _ rfl).1
    · rintro id now rfl
      exact absurd rfl (leaves id _ rfl).2
    · rcases before.claimed_cases number query table id with same | ⟨now, rfl, _⟩
      · exact same
      · exact absurd rfl (leaves id _ rfl).1
  | _ =>
    cases called
    exact ⟨.refl _, rfl, rfl⟩

theorem leaves_meets {α : Type} {handler : Handler α} {state : DispatchState} (leaves : handler.Only Call.LeavesDispatch)
    (reports : request.Reports state) : BrowserMeets number request (fun _ s => request.Reports s ∧
      ∀ id, number ∈ s.claims id ↔ number ∈ state.claims id) handler state := by
  refine .only leaves ?_ ?_ ⟨reports, fun _ => Iff.rfl⟩
  · rintro s s' moved ⟨still, mine⟩
    exact ⟨fun operationId dispatch same => moved.rejected _ (still operationId dispatch same),
      fun id => (moved.mine id).trans (mine id)⟩
  · rintro op s answer after quiet called ⟨still, mine⟩
    obtain ⟨guaranteed, claims, rejected⟩ := browserExec_leaves called quiet still
    refine ⟨guaranteed, fun operationId dispatch same => ?_, fun id => ?_⟩
    · rw [rejected]
      exact still operationId dispatch same
    · rw [claims]
      exact mine id

/-- A claim that is granted is on record. -/
theorem claimExternalDispatch_meets {operationId : String} {state : DispatchState} (reports : request.Reports state)
    (fresh : ∀ id, number ∉ state.claims id) :
    BrowserMeets number request (fun result s => request.Reports s ∧ ∀ operation, result = .ok (operation, true) →
      number ∈ s.claims operationId) (OperationRepository.claimExternalDispatch operationId) state := by
  refine .bind dispatchRely_closed ((leaves_meets assertNow_only.reading reports).mono ?_)
  rintro (failure | now) s ⟨still, mine⟩
  · intro s' moved
    exact ⟨fun _ _ same => moved.rejected _ (still _ _ same), fun _ failed => (nomatch failed)⟩
  · refine .statement_bind fun s' moved answer after called => ?_
    obtain ⟨timely, table, answers, rfl⟩ := called
    have unclaimed : ∀ id, number ∉ s'.claims id := fun id claimed =>
      fresh id ((mine id).mp ((moved.mine id).mp claimed))
    have reports' : request.Reports s' := fun _ _ same => moved.rejected _ (still _ _ same)
    refine ⟨DispatchState.log_guarantee answers ⟨timely, fun id _ _ => unclaimed id, ?_, reports'⟩, ?_⟩
    · intro id other impossible
      cases impossible
    · have logged : request.Reports (s'.log number request (.update operationId (.claimExternalDispatch now)) table) :=
        reports'
      cases answer with
      | error failure =>
        intro later last
        exact ⟨fun _ _ same => last.rejected _ (reports' _ _ same), fun _ failed => (nomatch failed)⟩
      | ok found =>
        cases found with
        | none =>
          refine .bind dispatchRely_closed ((leaves_meets get_only.reading logged).mono ?_)
          rintro (failure | _ | existing) later ⟨again, _⟩
          · intro last moves
            exact ⟨fun _ _ same => moves.rejected _ (again _ _ same), fun _ failed => (nomatch failed)⟩
          · refine .lift fun last moves => ?_
            exact ⟨fun _ _ same => moves.rejected _ (again _ _ same), fun _ failed => (nomatch failed)⟩
          · refine .pure fun last moves => ?_
            exact ⟨fun _ _ same => moves.rejected _ (again _ _ same), fun _ unclaimed => (nomatch unclaimed)⟩
        | some row =>
          obtain ⟨old, done, result⟩ := answers.updated
          have took : DispatchState.Moved s'.table table operationId := by
            have status := (DispatchState.claimable_of_guard done.allowed).status
            obtain ⟨_, _, rfl⟩ := OperationUpdate.exists_context done.written
            simp [DispatchState.Moved, done.found, result, status]
          have claimed :
              number ∈ s'.claimed number (.update operationId (.claimExternalDispatch now)) table operationId := by
            have appended : s'.claimed number (.update operationId (.claimExternalDispatch now)) table operationId =
                s'.claims operationId ++ [number] := if_pos ⟨rfl, took⟩
            rw [appended]
            exact List.mem_append_right _ (List.mem_singleton_self _)
          refine .lift_bind (fun failure _ last moves => ?_) fun record _ => .pure fun last moves => ?_
          · exact ⟨fun _ _ same => moves.rejected _ (reports' _ _ same), fun _ failed => (nomatch failed)⟩
          · exact ⟨fun _ _ same => moves.rejected _ (reports' _ _ same), fun _ _ => (moves.mine _).mpr claimed⟩

/-- A release leaves everything else as it is. -/
theorem releaseExternalDispatch_meets {operationId reported : String} {dispatch : Nat} {state : DispatchState}
    (reports : BrowserRequest.Reports (.releaseExternalDispatch reported dispatch) state) :
    BrowserMeets number (.releaseExternalDispatch reported dispatch)
      (fun _ s => BrowserRequest.Reports (.releaseExternalDispatch reported dispatch) s)
      (OperationRepository.releaseExternalDispatch operationId) state := by
  refine .bind dispatchRely_closed ((leaves_meets assertNow_only.reading reports).mono ?_)
  rintro (failure | now) s ⟨still, _⟩
  · exact fun s' moved _ _ same => moved.rejected _ (still _ _ same)
  · refine .statement_bind fun s' moved answer after called => ?_
    obtain ⟨timely, table, answers, rfl⟩ := called
    have logged : BrowserRequest.Reports (.releaseExternalDispatch reported dispatch)
        (s'.log number (.releaseExternalDispatch reported dispatch) (.update operationId (.releaseExternalDispatch now))
          table) := fun _ _ same => moved.rejected _ (still _ _ same)
    refine ⟨DispatchState.log_guarantee answers ⟨timely, ?_, fun _ _ _ => ⟨_, _, rfl⟩, logged⟩, ?_⟩
    · intro id other impossible
      cases impossible
    · cases answer with
      | error failure => exact fun later last _ _ same => last.rejected _ (logged _ _ same)
      | ok found =>
        cases found with
        | none =>
          refine .bind dispatchRely_closed ((leaves_meets get_only.reading logged).mono ?_)
          rintro (failure | _ | existing) later ⟨again, _⟩
          · exact fun last moves _ _ same => moves.rejected _ (again _ _ same)
          · exact .lift fun last moves _ _ same => moves.rejected _ (again _ _ same)
          · exact .pure fun last moves _ _ same => moves.rejected _ (again _ _ same)
        | some row =>
          refine .lift_bind (fun failure _ last moves _ _ same => moves.rejected _ (logged _ _ same)) fun record _ => ?_
          exact .pure fun last moves _ _ same => moves.rejected _ (logged _ _ same)

def browserPost (number : Nat) (request : BrowserRequest) (answer : BrowserAnswer) (state : DispatchState) : Prop :=
  match request with
  | .claimExternalDispatch operationId =>
    ∀ result, answer = .ok result → result.replayed = false → number ∈ state.claims operationId
  | _ => True

theorem browserResult_meets {operation : OperationRecord} {replayed : Bool} {dispatch : Except Failure (Option Json)}
    {jobId : Option DecimalUint} {operationId : String} {state : DispatchState} (reports : request.Reports state)
    (claimed : replayed = false → number ∈ state.claims operationId) :
    BrowserMeets number request (browserPost number (.claimExternalDispatch operationId))
      (browserResult operation replayed dispatch jobId) state := by
  refine .lift_bind (fun failure _ s' _ => fun _ failed => (nomatch failed)) fun dispatch _ => ?_
  have only : Handler.Only Call.LeavesDispatch (ExceptT.mk (Program.ask (Call.optionalJob jobId)) : Handler Unit) :=
    ⟨fun _ _ => (nomatch ·), fun _ => trivial⟩
  refine .bind dispatchRely_closed ((leaves_meets only reports).mono ?_)
  rintro (failure | _) s ⟨_, mine⟩
  · exact fun s' _ _ failed => (nomatch failed)
  · refine .pure fun s' moved result same granted => ?_
    cases Except.ok.inj same
    exact (moved.mine operationId).mpr ((mine operationId).mpr (claimed granted))

theorem claim_meets {server : CommerceServer} {operationId : String} {state : DispatchState}
    (reports : request.Reports state) (fresh : ∀ id, number ∉ state.claims id) :
    BrowserMeets number request (browserPost number (.claimExternalDispatch operationId))
      (server.claimExternalDispatch operationId) state := by
  refine .bind dispatchRely_closed ((leaves_meets authorizeClaim_leavesDispatch reports).mono ?_)
  rintro (failure | _) s ⟨still, mine⟩
  · exact fun s' _ _ failed => (nomatch failed)
  · have unclaimed : ∀ id, number ∉ s.claims id := fun id claimed => fresh id ((mine id).mp claimed)
    refine .bind dispatchRely_closed ((claimExternalDispatch_meets still unclaimed).mono ?_)
    rintro (failure | ⟨operation, claimed⟩) later ⟨again, granted⟩
    · exact fun s' _ _ failed => (nomatch failed)
    · refine browserResult_meets again fun taken => granted operation ?_
      rw [Bool.not_eq_eq_eq_not.mp taken]; rfl

theorem release_meets {server : CommerceServer} {operationId reported : String} {dispatch : Nat} {state : DispatchState}
    (reports : BrowserRequest.Reports (.releaseExternalDispatch reported dispatch) state) :
    BrowserMeets number (.releaseExternalDispatch reported dispatch) (fun _ _ => True)
      (server.releaseExternalDispatch operationId) state := by
  refine .bind dispatchRely_closed ((leaves_meets assertBrowserOperationActor_leavesDispatch reports).mono ?_)
  rintro (failure | existing) s ⟨still, _⟩
  · exact fun _ _ => trivial
  · dsimp only
    split
    · exact .throw fun _ _ => trivial
    · refine .bind dispatchRely_closed ((releaseExternalDispatch_meets still).mono ?_)
      rintro (failure | ⟨operation, released⟩) later again
      · exact fun _ _ => trivial
      · exact (leaves_meets browserResult_leavesDispatch again).mono fun _ _ _ => trivial

theorem DispatchState.Initial.exclusive {state : DispatchState} (initial : state.Initial) : state.Exclusive := by
  obtain ⟨_, claims, released, _⟩ := initial
  have none : ∀ id, state.claims id = [] := fun id => congrFun claims id
  refine ⟨?_, ?_, ?_, ?_, ?_⟩
  · exact fun id claimed => absurd (none id) claimed
  · intro id dispatch member
    rw [released] at member
    cases member
  · intro id dispatch member
    rw [none] at member
    cases member
  · intro id row _ _ dispatch member
    rw [none] at member
    cases member
  · intro id
    rw [none]
    exact List.nodup_nil

end

section

open Interleaving

section

variable [Sha256] {number : Nat} {request : BrowserRequest} {server : CommerceServer} {pool : BrowserPool}

theorem BrowserRequest.meets {state : DispatchState} (reports : request.Reports state)
    (fresh : ∀ id, number ∉ state.claims id) :
    BrowserMeets number request (browserPost number request) (request.handler server) state := by
  have leaves : ∀ {handler : Handler BrowserResult}, handler.Only Call.LeavesDispatch →
      BrowserMeets number request (fun _ _ => True) handler state :=
    fun only => (leaves_meets only reports).mono fun _ _ _ => trivial
  cases request with
  | claimExternalDispatch => exact claim_meets reports fresh
  | releaseExternalDispatch => exact release_meets reports
  | attachExternalExecution => exact leaves attachExternalExecution_leavesDispatch
  | operationStatus => exact leaves operationStatus_leavesDispatch
  | reconcile => exact leaves reconcile_leavesDispatch
  | reserveExternal => exact leaves (.bind reserveExternal_leavesDispatch fun _ => .pure _)

/-- A request that has not started has claimed nothing. -/
theorem BrowserReach.fresh {meets : DispatchCondition} (reach : BrowserReach server meets pool) :
    ∀ i, pool.threads.length ≤ i → ∀ id, i ∉ pool.state.claims id := by
  induction reach with
  | start first =>
    intro i _ id
    rw [first.2.1]
    exact List.not_mem_nil
  | @next before _ _ step ih =>
    intro i later id
    cases step with
    | start =>
      simp only [List.length_append, List.length_singleton] at later
      exact ih i (by omega) id
    | @call k request op next answer s' atThread called =>
      have bound := (List.getElem?_eq_some_iff.mp atThread).1
      simp only [List.length_set] at later
      cases op with
      | operations query =>
        obtain ⟨_, table, _, rfl⟩ := called
        rcases before.state.claimed_cases k query table id with same | ⟨_, _, _, more⟩
        · have still := ih i later id
          rwa [← same] at still
        · change i ∉ before.state.claimed k query table id
          rw [more, List.mem_append, List.mem_singleton]
          rintro (old | rfl)
          · exact ih i later id old
          · omega
      | _ =>
        cases called
        exact ih i later id
    | environment moved =>
      obtain ⟨_, rfl⟩ := moved
      exact ih i later id

theorem browser_contract :
    (browser server Timely).Contract DispatchState.Initial DispatchRely DispatchGuarantee browserPost where
  closed _ := dispatchRely_closed
  environment _ _ _ moved := by
    obtain ⟨_, rfl⟩ := moved
    exact ⟨fun _ => Iff.rfl, fun _ member => List.mem_append_left _ member⟩
  fellows _ other _ _ differs mine := ⟨mine.others other differs, fun _ member => mine.rejected ▸ member⟩
  handlers pool request reach allowed := by
    have reports : request.Reports pool.state := by
      rintro operationId dispatch rfl
      exact allowed.1
    exact (BrowserRequest.meets reports (BrowserReach.fresh reach pool.threads.length (Nat.le_refl _))).meets

theorem BrowserReach.exclusive (reach : BrowserReach server Timely pool) : pool.state.Exclusive := by
  refine browser_contract.invariant reach (fun _ initial => initial.exclusive) (fun _ _ _ mine => mine.exclusive) ?_
  rintro before after ⟨dispatch, rfl⟩ exclusive
  exact ⟨exclusive.known, fun id old member => List.mem_append_left _ (exclusive.rejected id old member),
    exclusive.earlier, exclusive.idle, exclusive.distinct⟩

/-- Two dispatches are never outstanding: every claim that was granted is on record, and
all claims of a row but the last were released because of their own rejection. -/
structure OncePerClaim (pool : BrowserPool) : Prop where
  granted : ∀ i operationId result,
    pool.threads[i]? = some ⟨.claimExternalDispatch operationId, .done (.ok result)⟩ → result.replayed = false →
    i ∈ pool.state.claims operationId
  distinct : ∀ id, (pool.state.claims id).Nodup
  earlier : ∀ id, ∀ dispatch ∈ (pool.state.claims id).dropLast,
    dispatch ∈ pool.state.released id ∧ dispatch ∈ pool.state.rejected

end

end

section

open Interleaving

def browserRespond (outside : (call : Call) → call.Answer) (number : Nat) (request : BrowserRequest) :
    (call : Call) → DispatchState → call.Answer × DispatchState
  | .operations query, state =>
    ((query.run state.table).1, state.log number request query (query.run state.table).2)
  | call, state => (outside call, state)

theorem browserRespond_allowed {meets : DispatchCondition} {request : BrowserRequest}
    (met : ∀ state query, meets state request query) (outside : (call : Call) → call.Answer) (number : Nat) (call : Call)
    (state : DispatchState) :
    browserExec meets number request call state (browserRespond outside number request call state).1
      (browserRespond outside number request call state).2 := by
  cases call with
  | operations query => exact ⟨met state query, _, .answered, rfl⟩
  | _ => rfl

def BrowserPool.serve [Sha256] (server : CommerceServer) (outside : (call : Call) → call.Answer) (pool : BrowserPool)
    (request : BrowserRequest) : BrowserPool :=
  let run := (request.handler server).run.eval (browserRespond outside pool.threads.length request) pool.state
  ⟨run.2, pool.threads ++ [⟨request, .done run.1⟩]⟩

def BrowserPool.reject (pool : BrowserPool) (dispatch : Nat) : BrowserPool :=
  ⟨{ pool.state with rejected := pool.state.rejected ++ [dispatch] }, pool.threads⟩

theorem BrowserReach.serve [Sha256] {server : CommerceServer} {meets : DispatchCondition} {pool : BrowserPool}
    (reach : BrowserReach server meets pool) (request : BrowserRequest) (outside : (call : Call) → call.Answer)
    (allowed : request.MayStart pool) (met : ∀ state query, meets state request query) :
    BrowserReach server meets (pool.serve server outside request) :=
  reach.handled allowed (Runs.of_eval (browserRespond_allowed met outside _) (request.handler server).run pool.state)

theorem BrowserReach.reject [Sha256] {server : CommerceServer} {meets : DispatchCondition} {pool : BrowserPool}
    (reach : BrowserReach server meets pool) (dispatch : Nat) : BrowserReach server meets (pool.reject dispatch) :=
  reach.next (.environment ⟨dispatch, rfl⟩)

def quietPool : BrowserPool := ⟨⟨.empty, fun _ => [], fun _ => [], []⟩, []⟩

theorem quietPool_reach [Sha256] (server : CommerceServer) (meets : DispatchCondition) :
    BrowserReach server meets quietPool := .start ⟨rfl, rfl, rfl, rfl⟩

def BrowserPool.granted (pool : BrowserPool) (number : Nat) (operationId : String) : Bool :=
  match pool.threads[number]? with
  | some ⟨.claimExternalDispatch claimed, .done (.ok result)⟩ => claimed == operationId && !result.replayed
  | _ => false

theorem BrowserPool.granted_result {pool : BrowserPool} {number : Nat} {operationId : String}
    (granted : pool.granted number operationId = true) :
    ∃ result, pool.threads[number]? = some ⟨.claimExternalDispatch operationId, .done (.ok result)⟩ ∧
      result.replayed = false := by
  unfold BrowserPool.granted at granted
  split at granted
  · rename_i claimed result found
    simp only [Bool.and_eq_true, beq_iff_eq, Bool.not_eq_true'] at granted
    obtain ⟨rfl, fresh⟩ := granted
    exact ⟨result, found, fresh⟩
  · cases granted

def sampleServer : CommerceServer where
  chainId := .testnet
  approvals := true
  prepareEoaStep _ := .error (.foreign "offline")
  buildDispatch _ := .ok (some (.obj []))

def browserOutside : (call : Call) → call.Answer
  | .identity => .ok ⟨"buyer-1", buyer⟩
  | .optionalJob _ => .ok ()
  | call => sampleOutside "operation-1" call

def fundingStep : PreparedOperation :=
  { sampleOperation .create sampleDigest with
    context := some ⟨buyer, some .hire, some [("connector", .str "eip1193"), ("eoaStep", .str "create")], none, none, none,
      none, none, none⟩ }

def BrowserPool.claim [Sha256] (pool : BrowserPool) : BrowserPool :=
  pool.serve sampleServer browserOutside (.claimExternalDispatch "operation-1")

def BrowserPool.release [Sha256] (pool : BrowserPool) (dispatch : Nat) : BrowserPool :=
  pool.serve sampleServer browserOutside (.releaseExternalDispatch "operation-1" dispatch)

def AboutReleases (meets : DispatchCondition) : Prop :=
  ∀ state request query, (∀ operationId dispatch, request ≠ .releaseExternalDispatch operationId dispatch) →
    meets state request query

theorem BrowserReach.claim [Sha256] {meets : DispatchCondition} {pool : BrowserPool}
    (reach : BrowserReach sampleServer meets pool) (about : AboutReleases meets) :
    BrowserReach sampleServer meets pool.claim :=
  reach.serve (.claimExternalDispatch "operation-1") browserOutside trivial fun _ _ => about _ _ _ fun _ _ => (nomatch ·)

def rejectedPool [Sha256] : BrowserPool :=
  ((quietPool.serve sampleServer browserOutside (.reserveExternal fundingStep "t5-eoa:job-1:create")).claim).reject 1

theorem rejectedPool_reach [Sha256] {meets : DispatchCondition} (about : AboutReleases meets) :
    BrowserReach sampleServer meets rejectedPool := by
  have reserved := BrowserReach.serve (quietPool_reach sampleServer meets)
    (.reserveExternal fundingStep "t5-eoa:job-1:create") browserOutside trivial fun _ _ => about _ _ _ fun _ _ => (nomatch ·)
  exact BrowserReach.reject (BrowserReach.claim reserved about) 1

theorem BrowserReach.release [Sha256] {pool : BrowserPool} {dispatch : Nat}
    (reach : BrowserReach sampleServer (fun _ _ _ => True) pool) (granted : pool.granted dispatch "operation-1" = true)
    (rejected : dispatch ∈ pool.state.rejected) :
    BrowserReach sampleServer (fun _ _ _ => True) (pool.release dispatch) :=
  reach.serve (.releaseExternalDispatch "operation-1" dispatch) browserOutside
    ⟨rejected, BrowserPool.granted_result granted⟩ fun _ _ => trivial

/-- Its release is delivered; the dispatch is claimed again; the release is delivered a
second time; and the dispatch is claimed once more. -/
def latePool [Sha256] : BrowserPool := (((rejectedPool.release 1).claim).release 1).claim

theorem latePool_reach [Sha256]
    (first : rejectedPool.granted 1 "operation-1" = true ∧ 1 ∈ rejectedPool.state.rejected)
    (second : (rejectedPool.release 1).claim.granted 1 "operation-1" = true ∧
      1 ∈ (rejectedPool.release 1).claim.state.rejected) : BrowserReach sampleServer (fun _ _ _ => True) latePool := by
  have about : AboutReleases fun _ _ _ => True := fun _ _ _ _ => trivial
  unfold latePool
  have released := BrowserReach.release (rejectedPool_reach about) first.1 first.2
  exact BrowserReach.claim (BrowserReach.release (BrowserReach.claim released about) second.1 second.2) about

end

end Bnbera
