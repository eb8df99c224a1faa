import Bnbera.Creator.Contracts
import Bnbera.Interleaving.Pool

namespace Bnbera.Creator

open Interleaving

section
variable {α : Type}

def CreatorState.reads (s : CreatorState) (i : Nat) (value : α) : Option (Except CreatorFailure α × CreatorState) :=
  if i ∈ s.lost then none else some (.ok value, s)

def CreatorState.ends (s : CreatorState) (i : Nat) (value : α) (tables : Tables) : Option (Except CreatorFailure α × CreatorState) :=
  if i ∈ s.lost then none else some (.ok value, { s with tables := tables, held := released i s.held })

def CreatorState.makes (s : CreatorState) : Except CreatorFailure (α × Tables) → Option (Except CreatorFailure α × CreatorState)
  | .ok (value, tables) => some (.ok value, { s with tables := tables })
  | .error _ => none

end

/-- An answer to each call, where nothing fails: the adapters are ready and the handoffs confirm. -/
def CreatorState.respond [Sha256] (s : CreatorState) (i : Nat) : (op : CreatorCall) → Option (op.Answer × CreatorState)
  | .lock key =>
    if i ∉ s.lost ∧ ∀ lock ∈ s.held, lock.1 = key → lock.2 = i then some (.ok (), { s with held := (key, i) :: s.held }) else none
  | .ownDraft userId draftId => s.reads i (s.tables.ownDraft userId draftId)
  | .activeAuthority draftId => s.reads i (s.tables.activeAuthority draftId)
  | .usableWallet authorityId draftId => s.reads i (s.tables.usableWallet authorityId draftId s.now)
  | .activeForWallet wallet draftId => s.reads i (s.tables.activeForWallet wallet draftId)
  | .priorDeployment draftId => s.reads i (s.tables.priorDeployment draftId)
  | .commit => s.ends i () s.tables
  | .commitAuthority draftId input =>
    let row := authorityRow ("authority-" ++ draftId) draftId input s.now
    if ∀ other ∈ s.tables.authorities, other.id ≠ row.id then
      s.ends i row { s.tables with authorities := s.tables.authorities ++ [row] } else none
  | .commitDeployment draftId configuration authority executionWallet =>
    let row := deploymentRow ("deployment-" ++ draftId) draftId configuration s.now
    if ∀ other ∈ s.tables.deployments, other.id ≠ row.id then
      s.ends i row { s.tables with
        deployments := s.tables.deployments ++ [row]
        events := s.tables.events ++
          if s.tables.events.any fun event => event.deploymentId = row.id && event.nextState = .queued then []
          else [acceptedEvent row.id draftId authority executionWallet] } else none
  | .rollback => some (.ok (), { s with held := released i s.held })
  | .claimNextQueuedDeployment => s.makes (.ok (Creator.claimNextQueuedDeployment s.now (fun _ => false) s.tables))
  | .recordBrowserRevocation userId authorityId sessionPublicKey transactionHash =>
    s.makes (Creator.recordBrowserRevocation userId authorityId sessionPublicKey transactionHash s.now s.tables)
  | .load projectRoot deploymentId => some (Creator.load projectRoot deploymentId s.tables, s)
  | .record deploymentId input => s.makes (Creator.record deploymentId input s.now s.tables)
  | .recordIntent deploymentId => s.makes (.ok (Creator.recordIntent false deploymentId s.now s.tables))
  | .hasDeployIntent deploymentId => some (.ok (s.tables.hasEvent deploymentId "STUDIO_DEPLOY_INTENT"), s)
  | .recordScaffoldIntent deploymentId => s.makes (.ok (Creator.recordScaffoldIntent false deploymentId s.now s.tables))
  | .inspect .. | .materialize .. => some (.ok .ready, s)
  | .install .. | .run .. => some (.ok ⟨0, .ok⟩, s)
  | .status .. => some (.ok (some ⟨"runtime", some "https://agent.example/"⟩), s)
  | .verifyEndpoint .. => some (.ok true, s)
  | .registerAndVerify .. | .publishMarketplace _ | .verifyFundedJob .. | .activateCommerce _ =>
    some (.ok ⟨.confirmed, "operation"⟩, s)
  | .assertPublicEndpoint _ | .recheckAuthority _ => some (.ok (), s)

section
variable {α : Type} {s s' : CreatorState} {i : Nat}

def Alike (s s' : CreatorState) : Prop := s'.now = s.now ∧ s'.lost = s.lost

theorem reads_exec {value : α} {answer : Except CreatorFailure α} (made : s.reads i value = some (answer, s')) :
    Reads i value s answer s' ∧ Alike s s' := by
  unfold CreatorState.reads at made
  split at made
  · cases made
  · rename_i connected
    cases made
    exact ⟨⟨rfl, rfl, .inl ⟨connected, rfl⟩⟩, rfl, rfl⟩

theorem ends_exec {value : α} {tables : Tables} {answer : Except CreatorFailure α} {outcome : α → Tables → Prop}
    (allowed : outcome value tables) (made : s.ends i value tables = some (answer, s')) :
    Commits i outcome s answer s' ∧ Alike s s' := by
  unfold CreatorState.ends at made
  split at made
  · cases made
  · rename_i connected
    cases made
    exact ⟨.inl ⟨connected, rfl, value, allowed, .inl rfl⟩, rfl, rfl⟩

theorem makes_exec {result : Except CreatorFailure (α × Tables)} {answer : Except CreatorFailure α}
    (made : s.makes result = some (answer, s')) : Writes result s answer s' ∧ Alike s s' := by
  unfold CreatorState.makes at made
  split at made
  · cases made
    exact ⟨⟨rfl, .inl ⟨_, rfl, .inl rfl⟩⟩, rfl, rfl⟩
  · cases made

theorem respond_exec [Sha256] (op : CreatorCall) {answer : op.Answer} (made : s.respond i op = some (answer, s')) :
    op.exec i s answer s' ∧ Alike s s' := by
  cases op with
  | lock key =>
    simp only [CreatorState.respond] at made
    split at made
    · rename_i free
      cases made
      exact ⟨⟨rfl, .inl ⟨free.1, fun j held => free.2 _ held rfl, rfl, rfl⟩⟩, rfl, rfl⟩
    · cases made
  | ownDraft | activeAuthority | usableWallet | activeForWallet | priorDeployment => exact reads_exec made
  | commit => exact @ends_exec _ s s' i () s.tables answer (fun _ after => after = s.tables) rfl made
  | commitAuthority draftId input =>
    simp only [CreatorState.respond] at made
    split at made
    · rename_i fresh
      exact ends_exec ⟨fresh, rfl, rfl⟩ made
    · cases made
  | commitDeployment draftId configuration authority executionWallet =>
    simp only [CreatorState.respond] at made
    split at made
    · rename_i fresh
      exact ends_exec ⟨fresh, rfl, rfl⟩ made
    · cases made
  | claimNextQueuedDeployment =>
    simp only [CreatorState.respond] at made
    exact ⟨⟨fun _ => false, (makes_exec made).1⟩, (makes_exec made).2⟩
  | recordIntent | recordScaffoldIntent =>
    simp only [CreatorState.respond] at made
    exact ⟨⟨false, (makes_exec made).1⟩, (makes_exec made).2⟩
  | recordBrowserRevocation | record => exact makes_exec made
  | load | hasDeployIntent =>
    cases made
    exact ⟨⟨⟨rfl, rfl⟩, .inl rfl⟩, rfl, rfl⟩
  | _ =>
    cases made
    exact ⟨⟨rfl, rfl⟩, rfl, rfl⟩

end

theorem exec_log [Sha256] {op : CreatorCall} {s s' : CreatorState} {i : Nat} {answer : op.Answer} (called : op.exec i s answer s')
    (log : List (Nat × CreatorEntry)) : op.exec i s answer { s' with log := log } := by
  cases op <;> exact called

section
variable [Sha256] {admits : CreatorRequest → Prop}

def perform (permits : Circumstance) [∀ i op s, Decidable (permits i op s)] :
    Performance CreatorRequest CreatorCall CreatorCall.Answer CreatorState := fun i _ op s =>
  if permits i op s then (s.respond i op).map fun made => (made.1, { made.2 with log := s.log ++ [(i, ⟨op, made.1⟩)] }) else none

theorem perform_exec {permits : Circumstance} [∀ i op s, Decidable (permits i op s)] (i : Nat) (request : CreatorRequest)
    (op : CreatorCall) (s : CreatorState) (answer : op.Answer) (after : CreatorState)
    (performed : perform permits i request op s = some (answer, after)) :
    (creatorSystem admits permits).exec i request op s answer after := by
  unfold perform at performed
  split at performed
  · rename_i permitted
    obtain ⟨⟨found, state⟩, made, same⟩ := Option.map_eq_some_iff.mp performed
    cases same
    obtain ⟨called, now, lost⟩ := respond_exec op made
    exact ⟨permitted, exec_log called _, now, lost, rfl⟩
  · cases performed

end

def sampleConfiguration : CreatorRuntimeConfiguration where
  tradingPair := .tbnbCake
  inputAmountWei := 100000000000000
  slippageBps := 10
  quoteMaxAgeSeconds := 30
  deadlineSeconds := 60

def sampleDraft (draftId : String) : DraftRow :=
  ⟨draftId, "user", "Agent", draftId, "authority_active", 0, sampleConfiguration⟩

def sampleGrant : CreatorBrowserAuthorityInput where
  walletAddress := "0xA11ce00000000000000000000000000000000001"
  sessionPublicAddress := "0x5e55100000000000000000000000000000000002"
  policyDigest := "0xd1"
  adminAddress := "0xad00000000000000000000000000000000000003"
  sessionPublicKey := "0x04"
  grantIssuedAtUnix := 1
  expiresAtUnix := 4000000000
  grantTransactionHash := none

def sampleStep (draftId : String) : StudioStepInput where
  deploymentId := "deployment-" ++ draftId
  projectRoot := "/work"
  ready := true
  canInstall := false
  hasHandoffs := true

def sampleStart : CreatorState := ⟨⟨[sampleDraft "a", sampleDraft "b"], [], [], []⟩, 1000, [], [], []⟩

/-- The turns in which a draft is granted an authority and queued, by the threads `i` and `i + 1`. -/
def queues (draftId : String) (i : Nat) : List (Cue CreatorRequest) :=
  .start (.recordBrowserAuthority "user" draftId sampleGrant) :: List.replicate 4 (.call i) ++
    .start (.queueDeployment "user" draftId ⟨"authority-" ++ draftId, "0xd1", "secret", "2096-10-02T07:06:40.000Z"⟩) ::
    List.replicate 7 (.call (i + 1))

/-- The turns of an execution of the worker, by the thread `i`. -/
def executes (draftId : String) (i calls : Nat) : List (Cue CreatorRequest) :=
  .start (.studioStep (sampleStep draftId)) :: List.replicate calls (.call i)

def creatorRun [Sha256] (permits : Circumstance) [∀ i op s, Decidable (permits i op s)] (turns : List (Cue CreatorRequest)) :
    Option CreatorPool :=
  System.play (fun request => request.work.run) (perform permits) turns ⟨sampleStart, []⟩

theorem creatorRun_reach [Sha256] {admits : CreatorRequest → Prop} {permits : Circumstance}
    [∀ i op s, Decidable (permits i op s)] {turns : List (Cue CreatorRequest)} {pool : CreatorPool}
    (admitted : ∀ request, .start request ∈ turns → admits request) (run : creatorRun permits turns = some pool) :
    CreatorReach admits permits pool :=
  System.Reach.play (.start ⟨rfl, rfl, rfl, rfl, rfl⟩) perform_exec (fun _ => admitted) run

theorem creatorRun_step [Sha256] {admits : CreatorRequest → Prop} {permits : Circumstance}
    [∀ i op s, Decidable (permits i op s)] {before after : CreatorPool} {i : Nat}
    (turn : System.advance (perform permits) before i = some after) : (creatorSystem admits permits).Step before after :=
  System.advance_step perform_exec turn

theorem executes_admitted {draftId : String} {i calls : Nat} {request : CreatorRequest}
    (member : .start request ∈ executes draftId i calls) : workersOnly request := by
  simp only [executes, List.mem_cons, List.mem_replicate, reduceCtorEq, and_false, or_false] at member
  cases member
  exact trivial

theorem queues_admitted {draftId : String} {i : Nat} {request : CreatorRequest} (member : .start request ∈ queues draftId i) :
    workersOnly request := by
  simp only [queues, List.cons_append, List.mem_cons, List.mem_append, List.mem_replicate, reduceCtorEq, and_false,
    false_or, or_false] at member
  rcases member with same | same <;> cases same <;> exact trivial

instance (i : Nat) (op : CreatorCall) (s : CreatorState) : Decidable (anyTime i op s) := isTrue trivial

end Bnbera.Creator
