import Bnbera.Jobs.Completing

namespace Bnbera

open Relation

def JobRecord.transactionFor (job : JobRecord) : JobState → Option TransactionHash
  | .opened => none
  | .funded => job.fundingTransactionHash
  | .submitted => job.submissionTransactionHash
  | .completed => job.completionTransactionHash
  | .rejected => job.rejectionTransactionHash
  | .expired => job.refundTransactionHash

def JobState.stage : JobState → Nat
  | .opened => 0
  | .funded => 1
  | .submitted => 2
  | .completed => 2
  | .rejected => 2
  | .expired => 2

structure SameBargain (before after : JobTerms) : Prop where
  clientAddress : after.clientAddress = before.clientAddress
  providerAddress : after.providerAddress = before.providerAddress
  budgetAtomic : after.budgetAtomic = before.budgetAtomic
  expiresAtUnix : after.expiresAtUnix = before.expiresAtUnix

structure EvidenceKept (job later : JobRecord) : Prop where
  stage : job.state.stage ≤ later.state.stage
  terms : job.state ≠ .opened → SameBargain job.terms later.terms
  deliverable : job.state.stage = 2 → later.deliverableDigest = job.deliverableDigest
  transactions : ∀ state hash, job.transactionFor state = some hash → later.transactionFor state = some hash

/-- One accepted call of `transitionErc8183Job` whose inputs meet a condition. -/
def Transitions [Sha256] (admits : TransitionJobInput → Prop) (job next : JobRecord) : Prop :=
  ∃ eventId input event, admits input ∧ input.request.job = job ∧
    transitionErc8183Job eventId input = .ok (next, event)

/-- The metadata names no other transaction than the one recorded for the state it leads to,
and for a job that is handed in no other deliverable than the recorded one. -/
structure RepeatsEvidence (input : TransitionJobInput) : Prop where
  transaction : ∀ text hash, input.metadata.transactionHash = some text →
    input.request.job.transactionFor input.request.nextState = some hash → text = hash.text
  deliverable : ∀ text, input.metadata.deliverableDigest = some text → input.request.job.state.stage = 2 →
    input.request.job.deliverableDigest.map (·.text) = some text

theorem EvidenceKept.refl (job : JobRecord) : EvidenceKept job job where
  stage := le_refl _
  terms := fun _ => ⟨rfl, rfl, rfl, rfl⟩
  deliverable := fun _ => rfl
  transactions := fun _ _ found => found

theorem JobState.stage_le (state : JobState) : state.stage ≤ 2 := by
  cases state <;> decide

theorem JobState.stage_eq_zero {state : JobState} : state.stage = 0 ↔ state = .opened := by
  cases state <;> decide

theorem EvidenceKept.trans {job next later : JobRecord} (first : EvidenceKept job next) (second : EvidenceKept next later) :
    EvidenceKept job later where
  stage := first.stage.trans second.stage
  terms left := by
    have advanced := first.stage
    have nextLeft : next.state ≠ .opened := by
      intro opened
      have start : job.state.stage = 0 := by
        rw [opened] at advanced
        exact Nat.le_zero.mp advanced
      exact left (JobState.stage_eq_zero.mp start)
    have before := first.terms left
    have after := second.terms nextLeft
    exact ⟨after.clientAddress.trans before.clientAddress, after.providerAddress.trans before.providerAddress,
      after.budgetAtomic.trans before.budgetAtomic, after.expiresAtUnix.trans before.expiresAtUnix⟩
  deliverable handed := by
    have advanced := first.stage
    have bound := next.state.stage_le
    exact (second.deliverable (by omega)).trans (first.deliverable handed)
  transactions state hash found := second.transactions state hash (first.transactions state hash found)

theorem nextTerms_bargain {terms after : JobTerms} {action : JobAction} {metadata : ActionMetadata}
    {pin : EnabledDeploymentPin} (next : nextTerms terms action metadata pin = .ok after)
    (fixed : action ≠ .setProvider ∧ action ≠ .setBudget) : SameBargain terms after := by
  unfold nextTerms at next
  split at next
  · exact absurd rfl fixed.1
  · exact absurd rfl fixed.2
  · cases next
    exact ⟨rfl, rfl, rfl, rfl⟩

theorem assertErc8183Transition_stage [Sha256] {request : TransitionRequest}
    (accepted : assertErc8183Transition request = .ok ()) :
    request.job.state.stage ≤ request.nextState.stage ∧
      (request.job.state ≠ .opened → request.action ≠ .setProvider ∧ request.action ≠ .setBudget) := by
  by_cases moves : request.nextState = request.job.state
  · refine ⟨by rw [moves], fun left => ?_⟩
    by_cases named : request.action = .reconcile
    · rw [named]
      decide
    · obtain ⟨_, judged⟩ := refuseIf_bind_eq_ok.mp ((assertErc8183Transition_passed accepted).acts named)
      obtain ⟨legal, _⟩ := refuseIf_bind_eq_ok.mp judged
      -- A state that stays needs an open job.
      exact absurd ⟨.inr moves.symm, by simp [left]⟩ legal
  · obtain ⟨_, action⟩ := assertErc8183Transition_action accepted moves
    have guards := assertAction_accepted action moves
    refine ⟨?_, fun _ => guards.notOpenMutation⟩
    rcases canTransition_cases guards.allowed (Ne.symm moves) with ⟨source, target⟩ | ⟨source, target⟩ | ⟨source, target⟩
    · rw [source]
      exact Nat.zero_le _
    · rw [source]
      rcases target with target | target | target <;> rw [target] <;> decide
    · rw [source]
      rcases target with target | target | target <;> rw [target] <;> decide

theorem textOr_text {accepts : String → Bool} {given : Option String} {kept : Checked accepts}
    (same : ∀ text, given = some text → text = kept.text) : textOr given (some kept) = some kept := by
  cases given with
  | none => rfl
  | some text =>
    rw [same text rfl]
    exact check_text kept

theorem nextJob_transactionFor {job : JobRecord} {terms : JobTerms} {nextState : JobState} {metadata : ActionMetadata}
    {nowUnix : UnixSeconds} {state : JobState} {hash : TransactionHash} (found : job.transactionFor state = some hash)
    (repeats : ∀ text, metadata.transactionHash = some text → nextState = state → text = hash.text) :
    (nextJob job terms nextState metadata nowUnix).trimmed.transactionFor state = some hash := by
  have kept : (if nextState = state then textOr metadata.transactionHash (job.transactionFor state)
      else job.transactionFor state) = some hash := by
    split
    · rename_i target
      rw [found]
      exact textOr_text fun text given => repeats text given target
    · exact found
  cases state with
  | opened => cases found
  | funded => exact kept
  | submitted => exact kept
  | completed => exact kept
  | rejected => exact kept
  | expired => exact kept

theorem Transitions.kept [Sha256] {job next : JobRecord} (step : Transitions RepeatsEvidence job next) :
    EvidenceKept job next := by
  obtain ⟨eventId, input, event, repeats, rfl, accepted⟩ := step
  have moved := transitionErc8183Job_accepted accepted
  obtain ⟨pin, terms, nowUnix, _, termed, rfl⟩ := moved.made
  obtain ⟨stage, fixed⟩ := assertErc8183Transition_stage moved.asserted
  refine ⟨stage, fun left => nextTerms_bargain termed (fixed left), fun handed => ?_, fun state hash found => ?_⟩
  · show textOr input.metadata.deliverableDigest input.request.job.deliverableDigest = input.request.job.deliverableDigest
    cases given : input.metadata.deliverableDigest with
    | none => rfl
    | some text =>
      obtain ⟨digest, stored, same⟩ := Option.map_eq_some_iff.mp (repeats.deliverable text given handed)
      rw [stored]
      refine textOr_text fun other named => ?_
      cases named
      exact same.symm
  · refine nextJob_transactionFor found fun text given target => ?_
    exact repeats.transaction text hash given (target ▸ found)

/-- In a run whose calls repeat the recorded evidence, a job that has left open keeps its bargain, one that
was handed in its deliverable, and every recorded transaction stays. -/
theorem transitions_keep_evidence [Sha256] {job later : JobRecord}
    (run : ReflTransGen (Transitions RepeatsEvidence) job later) : EvidenceKept job later := by
  induction run with
  | refl => exact .refl job
  | tail _ step kept => exact kept.trans step.kept

def sampleHash (digit : Char) (hex : isTransactionHash (String.ofList ('0' :: 'x' :: List.replicate 64 digit)) = true) :
    TransactionHash := ⟨_, hex⟩

def submissionHash : TransactionHash := sampleHash '6' (by decide +kernel)

def laterHash : TransactionHash := sampleHash '7' (by decide +kernel)

def laterDigest : ContentDigest := ⟨String.ofList (List.replicate 64 '8'), by decide +kernel⟩

def handedInJob : JobRecord :=
  { sampleJob .submitted with
    deliverableDigest := some samplePinDigest
    submissionTransactionHash := some submissionHash }

def reconcileInput (deliverable : ContentDigest) (transaction : TransactionHash) : TransitionJobInput where
  request := {
    job := handedInJob
    deploymentPin := .enabled samplePin
    nextState := .submitted
    action := .reconcile
    actorAddress := evaluatorAddress.text
    nowUnix := 300
    reconcilerAddresses := [evaluatorAddress.text] }
  idempotencyKey := "reconcile-job-7"
  metadata := { deliverableDigest := some deliverable.text, transactionHash := some transaction.text }
  correlationId := "correlation"

section
attribute [local instance] nullSha256

/-- A reconciliation that repeats the evidence. -/
theorem transitions_keep_evidence_reconcile : ∃ next, Transitions RepeatsEvidence handedInJob next ∧
    EvidenceKept handedInJob next := by
  have accepts : (transitionErc8183Job sampleId (reconcileInput samplePinDigest submissionHash)).isOk = true := by
    decide +kernel
  obtain ⟨⟨next, event⟩, accepted⟩ := isOk_iff.mp accepts
  have repeats : RepeatsEvidence (reconcileInput samplePinDigest submissionHash) := by
    refine ⟨fun text hash given recorded => ?_, fun text given _ => ?_⟩
    · cases given
      cases recorded
      rfl
    · exact given
  have step : Transitions RepeatsEvidence handedInJob next := ⟨sampleId, _, event, repeats, rfl, accepted⟩
  exact ⟨next, step, transitions_keep_evidence (.single step)⟩

/-- An accepted reconciliation puts another deliverable and another transaction in the place of the recorded ones. -/
theorem reconcile_rewrites_evidence : ∃ next, handedInJob.parse = .ok handedInJob ∧
    Transitions (fun _ => True) handedInJob next ∧ next.state = .submitted ∧
      next.deliverableDigest = some laterDigest ∧ next.submissionTransactionHash = some laterHash ∧
      next.deliverableDigest ≠ handedInJob.deliverableDigest ∧
      next.submissionTransactionHash ≠ handedInJob.submissionTransactionHash := by
  have accepts : (transitionErc8183Job sampleId (reconcileInput laterDigest laterHash)).isOk = true := by decide +kernel
  obtain ⟨⟨next, event⟩, accepted⟩ := isOk_iff.mp accepts
  obtain ⟨pin, terms, nowUnix, _, _, made⟩ := (transitionErc8183Job_accepted accepted).made
  have deliverable : next.deliverableDigest = some laterDigest := by
    rw [made]
    exact check_text laterDigest
  have transaction : next.submissionTransactionHash = some laterHash := by
    rw [made]
    exact check_text laterHash
  refine ⟨next, by decide +kernel, ⟨sampleId, _, event, trivial, rfl, accepted⟩, by rw [made]; rfl, deliverable, transaction,
    ?_, ?_⟩
  · rw [deliverable]
    decide +kernel
  · rw [transaction]
    decide +kernel

end

end Bnbera
