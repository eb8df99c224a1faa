import Bnbera.Creator.Worker

namespace Bnbera.Creator

open Interleaving

abbrev CreatorHistory := History CreatorCall CreatorCall.Answer

def loadedBy (deploymentId : String) : CreatorEntry → Option LoadedDeployment
  | ⟨.load _ id, .ok current⟩ => if id = deploymentId then some current else none
  | _ => none

def Loaded (deploymentId : String) (current : LoadedDeployment) (history : CreatorHistory) : Prop :=
  ∃ entry ∈ history, loadedBy deploymentId entry = some current

/-- An answer that ends a stage: the workspace is ready, the endpoint is live, or the handoff is confirmed. -/
def handsOver (deploymentId : String) : CreatorStage → CreatorEntry → Bool
  | .studioScaffoldPackage, ⟨.inspect id _, .ok outcome⟩ => id = deploymentId && outcome = .ready
  | .studioScaffoldPackage, ⟨.materialize id _, .ok outcome⟩ => id = deploymentId && outcome = .ready
  | .deployReconcile, ⟨.verifyEndpoint id _, .ok verified⟩ => id = deploymentId && verified
  | .erc8004RegisterReconcile, ⟨.registerAndVerify id _, .ok outcome⟩ => id = deploymentId && isConfirmed outcome
  | .marketplacePublish, ⟨.publishMarketplace id, .ok outcome⟩ => id = deploymentId && isConfirmed outcome
  | .g2FundedJobReconcile, ⟨.verifyFundedJob id _ _ _, .ok outcome⟩ => id = deploymentId && isConfirmed outcome
  | .g2ActivationReconcile, ⟨.activateCommerce id, .ok outcome⟩ => id = deploymentId && isConfirmed outcome
  | _, _ => false

def HandedOver (deploymentId : String) (stage : CreatorStage) (history : CreatorHistory) : Prop :=
  ∃ entry ∈ history, handsOver deploymentId stage entry = true

/-- An execution of `studio.run`. -/
def starts (deploymentId : String) : CreatorEntry → Bool
  | ⟨.run id _ _, _⟩ => id = deploymentId
  | _ => false

def claims (deploymentId : String) : CreatorEntry → Bool
  | ⟨.recordIntent id, .ok claim⟩ => id = deploymentId && claim = .claimed
  | _ => false

/-- What a record may say: the stage that was loaded or the next one, and no other id than the one that was loaded. -/
structure Follows (deploymentId : String) (current : LoadedDeployment) (input : RecordInput) (history : CreatorHistory) : Prop where
  stage : input.stage = current.stage ∨
    input.stage.index = current.stage.index + 1 ∧ HandedOver deploymentId current.stage history
  named : ∀ id, current.publicId = some id → input.publicId = none ∨ input.publicId = some id
  plain : input.reasonCode ≠ "STUDIO_DEPLOY_INTENT"

def stepGuard (history : CreatorHistory) : CreatorCall → Prop
  | .recordScaffoldIntent id => ∃ current, Loaded id current history ∧ current.stage = .studioScaffoldPackage
  | .materialize id _ => ∃ current, Loaded id current history ∧ current.stage = .studioScaffoldPackage
  | .recordIntent id => ∃ current, Loaded id current history ∧ current.stage = .deployReconcile
  | .record id input => ∃ current, Loaded id current history ∧ Follows id current input history
  | .run id _ _ => (∃ entry ∈ history, claims id entry = true) ∧ ∀ entry ∈ history, starts id entry = false
  | _ => True

theorem Follows.stage_le {id : String} {current : LoadedDeployment} {input : RecordInput} {history : CreatorHistory}
    (follows : Follows id current input history) : current.stage ≤ input.stage := by
  rcases follows.stage with same | ⟨next, _⟩
  · exact same ▸ CreatorStage.le_refl _
  · exact Nat.le_of_lt (by omega)

theorem Loaded.mono {deploymentId : String} {current : LoadedDeployment} {history later : CreatorHistory}
    (loaded : Loaded deploymentId current history) (grown : ∀ entry ∈ history, entry ∈ later) :
    Loaded deploymentId current later := by
  obtain ⟨entry, member, found⟩ := loaded
  exact ⟨entry, grown entry member, found⟩

theorem HandedOver.mono {deploymentId : String} {stage : CreatorStage} {history later : CreatorHistory}
    (handed : HandedOver deploymentId stage history) (grown : ∀ entry ∈ history, entry ∈ later) :
    HandedOver deploymentId stage later := by
  obtain ⟨entry, member, found⟩ := handed
  exact ⟨entry, grown entry member, found⟩

theorem grown_snoc {history : CreatorHistory} {entry : CreatorEntry} : ∀ other ∈ history, other ∈ history ++ [entry] :=
  fun _ member => List.mem_append_left _ member

theorem Loaded.snoc {deploymentId : String} {current : LoadedDeployment} {history : CreatorHistory} {entry : CreatorEntry}
    (loaded : Loaded deploymentId current history) : Loaded deploymentId current (history ++ [entry]) :=
  loaded.mono grown_snoc

theorem HandedOver.last {deploymentId : String} {stage : CreatorStage} {history : CreatorHistory} {entry : CreatorEntry}
    (handed : handsOver deploymentId stage entry = true) : HandedOver deploymentId stage (history ++ [entry]) :=
  ⟨entry, List.mem_append_right _ (List.mem_singleton_self _), handed⟩

def workerGuard (history : CreatorHistory) (op : CreatorCall) : Prop := stepGuard history op ∧ op.isTransactional = false

abbrev Guarded {α : Type} (work : Work α) (history : CreatorHistory) : Prop := Warrants workerGuard (fun _ _ => True) work history

section
variable {deploymentId : String} {current : LoadedDeployment} {history : CreatorHistory} {input : StudioStepInput}

theorem asked (op : CreatorCall) {fact : op.Value → CreatorHistory → Prop} (permitted : workerGuard history op)
    (holds : ∀ value, fact value (history ++ [⟨op, .ok value⟩])) : Warrants workerGuard fact (ask op) history :=
  Warrants.asked permitted holds

theorem asked_bind {α : Type} {op : CreatorCall} {rest : op.Value → Work α} (permitted : workerGuard history op)
    (after : ∀ value, Guarded (rest value) (history ++ [⟨op, .ok value⟩])) : Guarded (ask op >>= rest) history :=
  Warrants.asked_bind permitted after

theorem storeRecord_guarded {record : RecordInput} (loaded : Loaded deploymentId current history)
    (follows : Follows deploymentId current record history) : Guarded (storeRecord deploymentId record) history := by
  refine Warrants.bind_any ?_ fun _ later grown => ?_
  · unfold assertEndpoint
    split
    · exact Warrants.returned trivial
    · exact asked (.assertPublicEndpoint _) ⟨trivial, rfl⟩ fun _ => trivial
  · refine asked (.record _ _)
      ⟨⟨current, loaded.mono grown, follows.stage.imp_right ?_, follows.named, follows.plain⟩, rfl⟩ fun _ => trivial
    exact fun next => ⟨next.1, next.2.mono grown⟩

theorem storeRecord_answered {α : Type} {record : RecordInput} {answer : α} (loaded : Loaded deploymentId current history)
    (follows : Follows deploymentId current record history) :
    Guarded (storeRecord deploymentId record >>= fun _ => (pure answer : Work α)) history :=
  (storeRecord_guarded loaded follows).bind fun _ _ _ _ => Warrants.returned trivial

theorem StudioTemplate.code_plain (outcome : StudioTemplate) : outcome.code ≠ "STUDIO_DEPLOY_INTENT" := by
  cases outcome <;> decide

theorem CommandReason.code_plain (reason : CommandReason) : reason.code ≠ "STUDIO_DEPLOY_INTENT" := by
  cases reason <;> decide

theorem installFailure_plain (reason : CommandReason) : installFailure reason ≠ "STUDIO_DEPLOY_INTENT" := by
  cases reason <;> decide

theorem advanceScaffold_guarded {reason : String} {outcome : StudioTemplate} (loaded : Loaded deploymentId current history)
    (plain : reason ≠ "STUDIO_DEPLOY_INTENT") (scaffold : current.stage = .studioScaffoldPackage)
    (ready : outcome = .ready → HandedOver deploymentId .studioScaffoldPackage history) :
    Guarded (advanceScaffold deploymentId reason outcome) history := by
  refine (storeRecord_guarded loaded ⟨.inl scaffold.symm, fun _ _ => .inl rfl, outcome.code_plain⟩).bind fun _ later grown _ => ?_
  by_cases isReady : outcome = .ready
  · rw [if_pos isReady]
    refine storeRecord_answered (loaded.mono grown) ⟨.inr ⟨?_, ?_⟩, fun _ _ => .inl rfl, plain⟩
    · rw [scaffold]
      rfl
    · rw [scaffold]
      exact (ready isReady).mono grown
  · rw [if_neg isReady]
    exact Warrants.returned trivial

theorem reconcileScaffold_warrants {inspected : StudioTemplate}
    (loaded : Loaded deploymentId current (history ++ [⟨.inspect deploymentId current, .ok inspected⟩]))
    (scaffold : current.stage = .studioScaffoldPackage) :
    Warrants workerGuard (fun outcome later => outcome = .ready → HandedOver deploymentId .studioScaffoldPackage later)
      (reconcileScaffold deploymentId current inspected) (history ++ [⟨.inspect deploymentId current, .ok inspected⟩]) := by
  cases inspected with
  | ready => exact Warrants.returned fun _ => HandedOver.last (by simp [handsOver])
  | mismatch =>
    refine asked (.materialize _ _) ⟨⟨current, loaded, scaffold⟩, rfl⟩ fun outcome ready => ?_
    subst ready
    exact HandedOver.last (by simp [handsOver])

theorem scaffoldStep_guarded (loaded : Loaded deploymentId current history) (scaffold : current.stage = .studioScaffoldPackage) :
    Guarded (scaffoldStep deploymentId current) history := by
  refine asked_bind ⟨⟨current, loaded, scaffold⟩, rfl⟩ fun claim => ?_
  have there : Loaded deploymentId current (history ++ [⟨.recordScaffoldIntent deploymentId, .ok claim⟩]) := loaded.snoc
  cases claim with
  | claimed =>
    refine asked_bind ⟨⟨current, there, scaffold⟩, rfl⟩ fun outcome => ?_
    refine advanceScaffold_guarded there.snoc (by decide) scaffold fun ready => ?_
    subst ready
    exact HandedOver.last (by simp [handsOver])
  | reconcile =>
    refine asked_bind ⟨trivial, rfl⟩ fun inspected => ?_
    exact (reconcileScaffold_warrants there.snoc scaffold).bind fun outcome later grown ready =>
      advanceScaffold_guarded (there.snoc.mono grown) (by decide) scaffold ready

theorem recordHandoff_guarded {next : CreatorStage} {pendingReason confirmedReason : String} {outcome : CreatorHandoffOutcome}
    (loaded : Loaded deploymentId current history) (follows : next.index = current.stage.index + 1)
    (plain : pendingReason ≠ "STUDIO_DEPLOY_INTENT" ∧ confirmedReason ≠ "STUDIO_DEPLOY_INTENT")
    (confirmed : isConfirmed outcome = true → HandedOver deploymentId current.stage history) :
    Guarded (recordHandoff deploymentId current next pendingReason confirmedReason outcome) history := by
  unfold recordHandoff
  split
  · rename_i handed
    exact storeRecord_answered loaded ⟨.inr ⟨follows, confirmed handed⟩, fun _ same => .inr same, plain.2⟩
  · exact storeRecord_answered loaded ⟨.inl rfl, fun _ same => .inr same, plain.1⟩

theorem handoffStep_guarded (loaded : Loaded input.deploymentId current history) :
    (current.stage = .erc8004RegisterReconcile → Guarded (registerStep input current) history) ∧
    (current.stage = .marketplacePublish → Guarded (publishStep input current) history) ∧
    (current.stage = .g2FundedJobReconcile → Guarded (fundedJobStep input current) history) ∧
    (current.stage = .g2ActivationReconcile → Guarded (activationStep input current) history) := by
  refine ⟨fun stage => ?_, fun stage => ?_, fun stage => ?_, fun stage => ?_⟩
  · unfold registerStep
    split
    · refine asked_bind ⟨trivial, rfl⟩ fun outcome =>
        recordHandoff_guarded loaded.snoc (by rw [stage]; rfl) (by decide) fun handed => ?_
      exact HandedOver.last (by simp [stage, handsOver, handed])
    · exact Warrants.returned trivial
  · unfold publishStep
    split
    · refine asked_bind ⟨trivial, rfl⟩ fun outcome =>
        recordHandoff_guarded loaded.snoc (by rw [stage]; rfl) (by decide) fun handed => ?_
      exact HandedOver.last (by simp [stage, handsOver, handed])
    · exact Warrants.returned trivial
  · unfold fundedJobStep
    split
    · refine asked_bind ⟨trivial, rfl⟩ fun outcome =>
        recordHandoff_guarded loaded.snoc (by rw [stage]; rfl) (by decide) fun handed => ?_
      exact HandedOver.last (by simp [stage, handsOver, handed])
    · exact Warrants.returned trivial
  · unfold activationStep
    split
    · refine asked_bind ⟨trivial, rfl⟩ fun outcome =>
        recordHandoff_guarded loaded.snoc (by rw [stage]; rfl) (by decide) fun handed => ?_
      exact HandedOver.last (by simp [stage, handsOver, handed])
    · exact Warrants.returned trivial

theorem verifyRecorded_warrants (endpoint : Option String) (history : CreatorHistory) :
    Warrants workerGuard (fun verified later => verified = true → HandedOver deploymentId .deployReconcile later)
      (verifyRecorded deploymentId endpoint) history := by
  unfold verifyRecorded
  split
  · exact Warrants.returned nofun
  · exact asked (.verifyEndpoint _ _) ⟨trivial, rfl⟩ fun verified handed => HandedOver.last (by simp [handsOver, handed])

theorem reconcileNamed_guarded {publicId : String} (loaded : Loaded deploymentId current history)
    (deploying : current.stage = .deployReconcile) : Guarded (reconcileNamed deploymentId publicId current) history := by
  refine asked_bind ⟨trivial, rfl⟩ fun recorded => ?_
  cases recorded with
  | none => exact Warrants.returned trivial
  | some found =>
    have there : Loaded deploymentId current
        (history ++ [⟨.status deploymentId (nativeStudioStatusCommand current.workspace), .ok (some found)⟩]) := loaded.snoc
    dsimp only
    by_cases named : found.deploymentId = publicId
    · rw [if_pos named]
      refine (verifyRecorded_warrants _ _).bind fun verified later grown confirmed => ?_
      unfold confirmDeployed
      split
      · rename_i handed
        refine storeRecord_answered (there.mono grown) ⟨.inr ⟨?_, ?_⟩, fun _ same => .inr same, by simp⟩
        · rw [deploying]
          rfl
        · rw [deploying]
          exact confirmed handed
      · exact storeRecord_answered (there.mono grown) ⟨.inl deploying.symm, fun _ same => .inr same, by simp⟩
    · rw [if_neg named]
      exact Warrants.returned trivial

theorem follows_unnamed {record : RecordInput} (deploying : current.stage = .deployReconcile) (unnamed : current.publicId = none)
    (stays : record.stage = .deployReconcile) (plain : record.reasonCode ≠ "STUDIO_DEPLOY_INTENT") :
    Follows deploymentId current record history := by
  refine ⟨.inl (stays.trans deploying.symm), fun id named => ?_, plain⟩
  rw [unnamed] at named
  cases named

theorem reconcileProviderStatus_guarded (loaded : Loaded deploymentId current history)
    (deploying : current.stage = .deployReconcile) (unnamed : current.publicId = none) :
    Guarded (reconcileProviderStatus deploymentId current) history := by
  refine asked_bind ⟨trivial, rfl⟩ fun recorded => storeRecord_answered loaded.snoc (follows_unnamed deploying unnamed rfl ?_)
  cases recorded <;> simp

theorem recordUnready_guarded {reason : String} (loaded : Loaded deploymentId current history)
    (plain : reason ≠ "STUDIO_DEPLOY_INTENT") (deploying : current.stage = .deployReconcile) : Guarded (recordUnready deploymentId reason) history :=
  storeRecord_answered loaded ⟨.inl deploying.symm, fun _ _ => .inl rfl, plain⟩

/-- No execution of `studio.run` yet. -/
def Unstarted (deploymentId : String) (history : CreatorHistory) : Prop := ∀ entry ∈ history, starts deploymentId entry = false

theorem Unstarted.snoc {entry : CreatorEntry} (unstarted : Unstarted deploymentId history)
    (other : starts deploymentId entry = false) : Unstarted deploymentId (history ++ [entry]) := by
  intro found member
  rcases List.mem_append.mp member with old | new
  · exact unstarted found old
  · exact List.mem_singleton.mp new ▸ other

theorem unlessPending_guarded {otherwise : Work (Option CreatorStage)} (loaded : Loaded deploymentId current history)
    (deploying : current.stage = .deployReconcile) (unnamed : current.publicId = none)
    (rest : Guarded otherwise (history ++ [⟨.hasDeployIntent deploymentId, .ok false⟩])) :
    Guarded (unlessPending deploymentId current otherwise) history := by
  refine asked_bind ⟨trivial, rfl⟩ fun pending => ?_
  cases pending with
  | true => exact reconcileProviderStatus_guarded loaded.snoc deploying unnamed
  | false => exact rest

theorem deploy_guarded (loaded : Loaded deploymentId current history) (deploying : current.stage = .deployReconcile)
    (unnamed : current.publicId = none) (claimed : ∃ entry ∈ history, claims deploymentId entry = true)
    (unstarted : Unstarted deploymentId history) : Guarded (deploy deploymentId current) history := by
  obtain ⟨claim, member, found⟩ := claimed
  refine asked_bind ⟨trivial, rfl⟩ fun _ => ?_
  refine asked_bind ⟨⟨⟨claim, grown_snoc claim member, found⟩, unstarted.snoc rfl⟩, rfl⟩ fun result => ?_
  refine asked_bind ⟨trivial, rfl⟩ fun recorded => ?_
  refine (verifyRecorded_warrants _ _).bind fun verified later grown _ => ?_
  refine storeRecord_answered (loaded.snoc.snoc.snoc.mono grown) (follows_unnamed deploying unnamed rfl ?_)
  cases recorded with
  | none => exact result.reasonCode.code_plain
  | some found => cases verified <;> simp

theorem claimDeploy_guarded (loaded : Loaded deploymentId current history) (deploying : current.stage = .deployReconcile)
    (unnamed : current.publicId = none) (unstarted : Unstarted deploymentId history) :
    Guarded (claimDeploy deploymentId current) history := by
  refine asked_bind ⟨⟨current, loaded, deploying⟩, rfl⟩ fun claim => ?_
  cases claim with
  | reconcile =>
    exact unlessPending_guarded loaded.snoc deploying unnamed
      (reconcileProviderStatus_guarded loaded.snoc.snoc deploying unnamed)
  | claimed =>
    refine deploy_guarded loaded.snoc deploying unnamed ⟨_, List.mem_append_right _ (List.mem_singleton_self _), ?_⟩
      (unstarted.snoc rfl)
    simp [claims]

theorem afterInstall_guarded {installed : CommandResult} (loaded : Loaded deploymentId current history)
    (deploying : current.stage = .deployReconcile) (unnamed : current.publicId = none)
    (unstarted : Unstarted deploymentId history) : Guarded (afterInstall deploymentId current installed) history := by
  unfold afterInstall
  split
  · refine asked_bind ⟨trivial, rfl⟩ fun inspected => ?_
    cases inspected with
    | ready => exact claimDeploy_guarded loaded.snoc deploying unnamed (unstarted.snoc rfl)
    | mismatch => exact recordUnready_guarded loaded.snoc (StudioTemplate.code_plain _) deploying
  · exact recordUnready_guarded loaded (installFailure_plain _) deploying

theorem install_warrants (unstarted : Unstarted deploymentId history) :
    Warrants workerGuard (fun _ later => Unstarted deploymentId later) (install deploymentId current) history := by
  refine Keeps.except_catch (Keeps.call ⟨trivial, rfl⟩ fun answer => Keeps.done ?_)
  cases answer with
  | error error => exact Warrants.returned (unstarted.snoc rfl)
  | ok value => exact fun _ _ => unstarted.snoc rfl

theorem inspectDeploy_guarded (loaded : Loaded input.deploymentId current history) (deploying : current.stage = .deployReconcile)
    (unnamed : current.publicId = none) (unstarted : Unstarted input.deploymentId history) :
    Guarded (inspectDeploy input current) history := by
  refine asked_bind ⟨trivial, rfl⟩ fun inspected => ?_
  cases inspected with
  | mismatch => exact unlessPending_guarded loaded.snoc deploying unnamed (recordUnready_guarded loaded.snoc.snoc (StudioTemplate.code_plain _) deploying)
  | ready =>
    have looked : Unstarted input.deploymentId (history ++ [⟨.inspect input.deploymentId current, .ok .ready⟩]) :=
      unstarted.snoc rfl
    simp only [prepareDeploy]
    split
    · refine (install_warrants looked).bind fun installed later grown still => ?_
      exact afterInstall_guarded (loaded.snoc.mono grown) deploying unnamed still
    · exact claimDeploy_guarded loaded.snoc deploying unnamed looked

theorem deployStep_guarded (loaded : Loaded input.deploymentId current history) (deploying : current.stage = .deployReconcile)
    (unstarted : Unstarted input.deploymentId history) : Guarded (deployStep input current) history := by
  unfold deployStep
  split
  · exact reconcileNamed_guarded loaded deploying
  · rename_i unnamed
    exact unlessPending_guarded loaded deploying unnamed
      (inspectDeploy_guarded loaded.snoc deploying unnamed (unstarted.snoc rfl))

end

/-- Every execution of the worker is guarded all the way. -/
theorem overWorkerStore_guarded (input : StudioStepInput) : Guarded (overWorkerStore input) [] := by
  unfold overWorkerStore
  split
  · refine asked_bind ⟨trivial, rfl⟩ fun current => ?_
    have loaded : Loaded input.deploymentId current ([] ++ [⟨.load input.projectRoot input.deploymentId, .ok current⟩]) :=
      ⟨_, List.mem_append_right _ (List.mem_singleton_self _), if_pos rfl⟩
    have unstarted : Unstarted input.deploymentId ([] ++ [⟨.load input.projectRoot input.deploymentId, .ok current⟩]) := by
      rintro entry member
      cases List.mem_singleton.mp member
      rfl
    by_cases ready : input.ready = true
    · rw [if_pos ready]
      unfold stageStep
      split
      · rename_i stage
        exact scaffoldStep_guarded loaded stage
      · rename_i stage
        exact (handoffStep_guarded loaded).1 stage
      · rename_i stage
        exact (handoffStep_guarded loaded).2.1 stage
      · rename_i stage
        exact (handoffStep_guarded loaded).2.2.1 stage
      · rename_i stage
        exact (handoffStep_guarded loaded).2.2.2 stage
      · rename_i stage
        exact deployStep_guarded loaded stage unstarted
      · exact Warrants.returned trivial
      · exact Warrants.returned trivial
      · exact Warrants.returned trivial
    · rw [if_neg ready]
      exact Warrants.returned trivial
  · exact Warrants.thrown

end Bnbera.Creator
