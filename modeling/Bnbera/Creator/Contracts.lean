import Bnbera.Creator.Steps

namespace Bnbera.Creator

open Interleaving

def CreatorCall.isEnd : CreatorCall → Bool
  | commit | commitAuthority .. | commitDeployment .. | rollback => true
  | _ => false

def taken (key : LockKey) : CreatorEntry := ⟨.lock key, .ok ()⟩

def Open (history : CreatorHistory) : Prop := ∀ entry ∈ history, entry.op.isEnd = false

/-- What a transaction has called before each call that its locks are for. -/
def lockGuard (history : CreatorHistory) : CreatorCall → Prop
  | .lock (.browserAuthority _) => history = []
  | .lock (.deployment _) => history = []
  | .lock (.activeWallet _) => Open history ∧ ∀ entry ∈ history, ∀ wallet draftId, entry.op ≠ .activeForWallet wallet draftId
  | .activeAuthority draftId => Open history ∧ taken (.browserAuthority draftId) ∈ history
  | .activeForWallet wallet _ => Open history ∧ taken (.activeWallet (lower wallet)) ∈ history
  | .priorDeployment draftId => Open history ∧ taken (.deployment draftId) ∈ history
  | .commitAuthority draftId _ => Open history ∧ taken (.browserAuthority draftId) ∈ history ∧
    (⟨.activeAuthority draftId, .ok none⟩ : CreatorEntry) ∈ history
  | .commitDeployment draftId _ _ wallet => Open history ∧ taken (.deployment draftId) ∈ history ∧
    taken (.activeWallet (lower wallet)) ∈ history ∧
    (∃ authorityId, (⟨.usableWallet authorityId draftId, .ok (some wallet)⟩ : CreatorEntry) ∈ history) ∧
    (⟨.activeForWallet wallet draftId, .ok none⟩ : CreatorEntry) ∈ history ∧
    (⟨.priorDeployment draftId, .ok none⟩ : CreatorEntry) ∈ history
  | _ => True

def userGuard (history : CreatorHistory) (op : CreatorCall) : Prop := lockGuard history op ∧ op.isWorkers = false

theorem Open.snoc {history : CreatorHistory} {entry : CreatorEntry} (opened : Open history) (other : entry.op.isEnd = false) :
    Open (history ++ [entry]) := by
  intro found member
  rcases List.mem_append.mp member with old | new
  · exact opened found old
  · exact List.mem_singleton.mp new ▸ other

theorem last_mem {history : CreatorHistory} {entry : CreatorEntry} : entry ∈ history ++ [entry] :=
  List.mem_append_right _ (List.mem_singleton_self _)

theorem ask_any {guard : CreatorHistory → CreatorCall → Prop} {history : CreatorHistory} (op : CreatorCall)
    (permitted : guard history op) : Warrants guard (fun _ _ => True) (ask op) history :=
  Warrants.asked_any op permitted

theorem inTransaction_warrants {α : Type} {body : Work α} {history : CreatorHistory}
    (warrants : Warrants userGuard (fun _ _ => True) body history) :
    Warrants userGuard (fun _ _ => True) (inTransaction body) history :=
  Warrants.caught warrants fun _ _ _ => Warrants.asked_bind ⟨trivial, rfl⟩ fun _ => Warrants.thrown

theorem refuseActiveWallet_ok {active : Option String} {value : Unit} (passed : refuseActiveWallet active = .ok value) :
    active = none := by
  cases active with
  | none => rfl
  | some id => cases passed

theorem orThrow_ok {α : Type} {code message : String} {found : Option α} {value : α}
    (passed : orThrow code message found = .ok value) : found = some value := by
  cases found with
  | none => cases passed
  | some other => exact congrArg some (Except.ok.inj passed)

theorem recordBrowserAuthority_warrants (userId draftId : String) (input : CreatorBrowserAuthorityInput) :
    Warrants userGuard (fun _ _ => True) (recordBrowserAuthority userId draftId input) [] := by
  refine inTransaction_warrants (Warrants.asked_bind ⟨rfl, rfl⟩ fun _ => Warrants.asked_bind ⟨trivial, rfl⟩ fun draft => ?_)
  refine Warrants.settled_bind fun _ _ => ?_
  have opened : Open ([taken (.browserAuthority draftId)] ++ [⟨.ownDraft userId draftId, .ok draft⟩]) := by
    intro entry member
    rcases List.mem_append.mp member with first | second
    · cases List.mem_singleton.mp first
      rfl
    · cases List.mem_singleton.mp second
      rfl
  have locked : taken (.browserAuthority draftId) ∈ [taken (.browserAuthority draftId)] ++ [⟨.ownDraft userId draftId, .ok draft⟩] :=
    List.mem_append_left _ (List.mem_singleton_self _)
  refine Warrants.asked_bind ⟨⟨opened, locked⟩, rfl⟩ fun existing => ?_
  unfold persistAuthority
  split
  · split
    · exact Warrants.asked_bind ⟨trivial, rfl⟩ fun _ => Warrants.returned trivial
    · exact Warrants.thrown
  · exact Warrants.asked_bind ⟨⟨opened.snoc rfl, grown_snoc _ locked, last_mem⟩, rfl⟩ fun _ => Warrants.returned trivial

theorem queueDeployment_warrants (userId draftId : String) (authority : CreatorRuntimeAuthority) :
    Warrants userGuard (fun _ _ => True) (queueDeployment userId draftId authority) [] := by
  refine inTransaction_warrants (Warrants.asked_bind ⟨rfl, rfl⟩ fun _ => ?_)
  refine Warrants.asked_bind ⟨trivial, rfl⟩ fun found => Warrants.settled_bind fun draft _ => ?_
  refine Warrants.asked_bind ⟨trivial, rfl⟩ fun usable => Warrants.settled_bind fun wallet passed => ?_
  obtain rfl := orThrow_ok passed
  let before : CreatorHistory := ([] ++ [taken (.deployment draftId)] ++ [⟨.ownDraft userId draftId, .ok found⟩]) ++
    [⟨.usableWallet authority.authorityId draftId, .ok (some wallet)⟩]
  have each : ∀ entry ∈ before, entry = taken (.deployment draftId) ∨ entry = ⟨.ownDraft userId draftId, .ok found⟩ ∨
      entry = ⟨.usableWallet authority.authorityId draftId, .ok (some wallet)⟩ := by
    intro entry member
    simpa only [before, List.nil_append, List.mem_append, List.mem_singleton, or_assoc] using member
  have opened : Open before := by
    intro entry member
    rcases each entry member with rfl | rfl | rfl <;> rfl
  have unread : ∀ entry ∈ before, ∀ wallet draftId, entry.op ≠ .activeForWallet wallet draftId := by
    intro entry member wallet draftId
    rcases each entry member with rfl | rfl | rfl <;> exact nofun
  have locked : taken (.deployment draftId) ∈ before := by simp [before]
  refine Warrants.asked_bind ⟨⟨opened, unread⟩, rfl⟩ fun _ => ?_
  have openedTwice : Open (before ++ [taken (.activeWallet (lower wallet))]) := opened.snoc rfl
  refine Warrants.asked_bind ⟨⟨openedTwice, last_mem⟩, rfl⟩ fun active => Warrants.settled_bind fun _ refused => ?_
  obtain rfl := refuseActiveWallet_ok refused
  have openedThen : Open (before ++ [taken (.activeWallet (lower wallet))] ++ [⟨.activeForWallet wallet draftId, .ok none⟩]) :=
    openedTwice.snoc rfl
  refine Warrants.asked_bind ⟨⟨openedThen, grown_snoc _ (grown_snoc _ locked)⟩, rfl⟩ fun prior => ?_
  refine Warrants.bind_any ?_ fun _ _ _ => Warrants.returned trivial
  unfold insertDeployment
  split
  · exact Warrants.asked_bind ⟨trivial, rfl⟩ fun _ => Warrants.returned trivial
  · refine ask_any (.commitDeployment _ _ _ _) ⟨⟨openedThen.snoc rfl, ?_, ?_, ⟨authority.authorityId, ?_⟩, ?_, last_mem⟩, rfl⟩
    · exact grown_snoc _ (grown_snoc _ (grown_snoc _ locked))
    · exact grown_snoc _ (grown_snoc _ last_mem)
    · exact grown_snoc _ (grown_snoc _ (grown_snoc _ last_mem))
    · exact grown_snoc _ last_mem

def workersOnly : CreatorRequest → Prop
  | .record .. | .recordIntent _ => False
  | _ => True

def callGuard : CreatorRequest → CreatorHistory → CreatorCall → Prop
  | .studioStep _ => workerGuard
  | .record .. | .recordIntent _ => fun _ op => op.isTransactional = false
  | _ => userGuard

theorem request_keeps (request : CreatorRequest) : Keeps (callGuard request) (fun _ _ => True) request.work.run [] := by
  have keeps : ∀ {guard : CreatorHistory → CreatorCall → Prop} {work : Work CreatorResponse},
      Warrants guard (fun _ _ => True) work [] → Keeps guard (fun _ _ => True) work.run [] :=
    fun warrants => Keeps.post warrants fun _ _ _ => trivial
  cases request with
  | recordBrowserAuthority userId draftId input => exact keeps (Warrants.map (recordBrowserAuthority_warrants userId draftId input))
  | queueDeployment userId draftId authority => exact keeps (Warrants.map (queueDeployment_warrants userId draftId authority))
  | recordBrowserRevocation => exact keeps (Warrants.map (ask_any (.recordBrowserRevocation ..) ⟨trivial, rfl⟩))
  | claimNextQueuedDeployment => exact keeps (Warrants.map (ask_any .claimNextQueuedDeployment ⟨trivial, rfl⟩))
  | studioStep input => exact keeps (Warrants.map (overWorkerStore_guarded input))
  | recordIntent deploymentId => exact keeps (Warrants.map (ask_any (.recordIntent deploymentId) rfl))
  | record deploymentId input =>
    refine keeps (Warrants.map (Warrants.bind_any ?_ fun _ _ _ => ask_any (.record deploymentId input) rfl))
    unfold assertEndpoint
    split
    · exact Warrants.returned trivial
    · exact ask_any (.assertPublicEndpoint _) rfl

theorem callGuard_step {request : CreatorRequest} {history : CreatorHistory} {op : CreatorCall} (admitted : workersOnly request)
    (guarded : callGuard request history op) : stepGuard history op := by
  have users : op.isWorkers = false → stepGuard history op := by
    intro other
    cases op <;> first | exact trivial | cases other
  cases request with
  | studioStep => exact guarded.1
  | record | recordIntent => exact admitted.elim
  | _ => exact users guarded.2

theorem callGuard_lock {request : CreatorRequest} {history : CreatorHistory} {op : CreatorCall}
    (guarded : callGuard request history op) : lockGuard history op := by
  have others : op.isTransactional = false → lockGuard history op := by
    intro other
    cases op <;> first | exact trivial | cases other
  cases request with
  | studioStep => exact others guarded.2
  | record | recordIntent => exact others guarded
  | _ => exact guarded.1

theorem blank_log (s : CreatorState) (blank : Blank s) : s.log = [] := blank.log

section
variable [Sha256] {admits : CreatorRequest → Prop} {permits : Circumstance} {pool : CreatorPool}

theorem CreatorReach.called {i : Nat} {request : CreatorRequest} {op : CreatorCall}
    {next : op.Answer → CreatorProgram CreatorOutcome} (reach : CreatorReach admits permits pool)
    (found : pool.threads[i]? = some ⟨request, .call op next⟩) :
    admits request ∧ callGuard request (System.ownCalls pool.state.log i) op :=
  ⟨reach.requests (fun _ _ admitted => admitted) found,
    ((reach.follows (creator_logs _ _) blank_log found).keeps (request_keeps request)).permitted⟩

theorem CreatorReach.about {i : Nat} {request : CreatorRequest} {op : CreatorCall}
    {next : op.Answer → CreatorProgram CreatorOutcome} (reach : CreatorReach workersOnly permits pool)
    (found : pool.threads[i]? = some ⟨request, .call op next⟩) : stepGuard (System.ownCalls pool.state.log i) op :=
  callGuard_step (reach.called found).1 (reach.called found).2

theorem CreatorReach.invariant {holds : CreatorState → Prop} (reach : CreatorReach admits permits pool)
    (start : ∀ s, Blank s → holds s)
    (exec : ∀ (pool : CreatorPool) i request op answer s', CreatorReach admits permits pool → admits request →
      permits i op pool.state → op.exec i pool.state answer s' → s'.lost = pool.state.lost →
      s'.log = pool.state.log ++ [(i, ⟨op, answer⟩)] →
      callGuard request (System.ownCalls pool.state.log i) op → holds pool.state → holds s')
    (environment : ∀ before after, Elsewhere before after → holds before → holds after) : holds pool.state := by
  refine System.Reach.guarded reach (creator_logs _ _) blank_log request_keeps start ?_ environment
  intro pool i request op next answer s' reach found called _ held
  have known := CreatorReach.called reach found
  exact exec pool i request op answer s' reach known.1 called.1 called.2.1 called.2.2.2.1 called.2.2.2.2 known.2 held

theorem CreatorReach.guarded {holds : CreatorState → Prop} (reach : CreatorReach workersOnly permits pool)
    (start : ∀ s, Blank s → holds s)
    (exec : ∀ (pool : CreatorPool) i op answer s', CreatorReach workersOnly permits pool → permits i op pool.state →
      op.exec i pool.state answer s' → s'.log = pool.state.log ++ [(i, ⟨op, answer⟩)] →
      stepGuard (System.ownCalls pool.state.log i) op → holds pool.state → holds s')
    (environment : ∀ before after, Elsewhere before after → holds before → holds after) : holds pool.state :=
  reach.invariant start
    (fun pool i _ op answer s' reach admitted permitted called _ logged guarded held =>
      exec pool i op answer s' reach permitted called logged (callGuard_step admitted guarded) held) environment

end

end Bnbera.Creator
