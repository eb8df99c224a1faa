import Bnbera.Altana.Revocation

namespace Bnbera.Altana

open Interleaving

inductive GateReason
  | authorityRevoked
  | authorityExpired
  | authorityUnverified
  | refused (code : AltanaBoundaryErrorCode)
deriving DecidableEq

structure ExecutionGate where
  allowed : Bool
  reasonCode : Option GateReason

def maxAuthorityObservationAgeSeconds : Int := 60

/-- `assertFreshActiveAuthority`, of an observation of the right type. -/
def assertFreshActiveAuthority (descriptor : RuntimeSessionDescriptor) (observation : SessionStateObservation)
    (nowUnix : Int) : Checked Unit := do
  refuse (observation.sessionId ≠ descriptor.sessionId) .sessionIdMismatch
    "The authority observation belongs to a different runtime session."
  refuse (descriptor.policyDigest.all (isHexText 64) = false ∨ observation.policyDigest.all (isHexText 64) = false ∨
      descriptor.policyDigest = none ∨ observation.policyDigest = none ∨
      descriptor.policyDigest.map lower ≠ observation.policyDigest.map lower) .policyDigestMismatch
    "The authority observation policy digest does not match the runtime session."
  refuse (¬isSafeInteger nowUnix ∨ nowUnix ≤ 0 ∨ ¬isSafeInteger observation.observedAtUnix ∨
      observation.observedAtUnix ≤ 0 ∨ observation.observedAtUnix > nowUnix ∨
      nowUnix - observation.observedAtUnix > maxAuthorityObservationAgeSeconds) .authorityStale
    "The authority observation is missing or older than the execution freshness window."
  refuse (observation.observedBlockNumber.any (· < 0)) .authorityReadRequired
    "The authority observation block reference is invalid."

def inactiveReason : SessionStatus → Option GateReason
  | .active => none
  | .revoked => some .authorityRevoked
  | .expired => some .authorityExpired
  | .unknown => some .authorityUnverified

def executionGate (descriptor : RuntimeSessionDescriptor) (observation : SessionStateObservation) (request : ActionRequest)
    (cumulativeSpend : List CumulativeSpend) (nowUnix : Int) : ExecutionGate :=
  let checked : Checked (Option GateReason) := do
    assertFreshActiveAuthority descriptor observation nowUnix
    match inactiveReason observation.status with
    | some reason => return some reason
    | none =>
      let _ ← assertPolicyValidAt descriptor.policy nowUnix
      assertActionWithinPolicy descriptor.policy request nowUnix cumulativeSpend
      return none
  match checked with
  | .ok none => ⟨true, none⟩
  | .ok (some reason) => ⟨false, some reason⟩
  | .error error => ⟨false, some (.refused error.code)⟩

structure RuntimeGrant where
  sessionId : String
  policy : ScopedPolicy
  policyDigest : Option String
  secretReference : String
deriving DecidableEq

section
variable [Keccak256]

/-- What `requireRuntimeAuthority` does with the record and the observation that it has read. -/
def admitRuntimeAction (record : CreatorAuthorityRecord) (observation : SessionStateObservation) (request : ActionRequest)
    (cumulativeSpend : List CumulativeSpend) (nowUnix : Int) : Checked RuntimeGrant := do
  assertBoundFreshObservation record.descriptor observation nowUnix
  let effective := effectiveObservation record.descriptor observation nowUnix
  let gate := executionGate record.descriptor effective request cumulativeSpend nowUnix
  refuse (gate.allowed = false) .sessionNotActive "Creator authority is not active for this runtime action."
  return ⟨record.descriptor.sessionId, record.descriptor.policy, record.descriptor.policyDigest, record.secretReference⟩

def requireRuntimeAuthority (authorityId : String) (request : ActionRequest) (cumulativeSpend : List CumulativeSpend)
    (nowUnix : Int) : AuthorityWork RuntimeGrant := do
  let found ← AuthorityWork.ask (.get authorityId)
  match found with
  | none => throw notFound
  | some record =>
    let answer ← AuthorityWork.ask (.gatewayRead record.descriptor)
    let observation ← AuthorityWork.settle answer
    AuthorityWork.check (admitRuntimeAction record observation request cumulativeSpend nowUnix)

variable {Moment Window : Type} [DecidableEq Window]

/-- An action of a run, with the reads by which it was let through. -/
structure RuntimeAction (Moment : Type) where
  passed : Passed Moment
  record : CreatorAuthorityRecord
  observation : SessionStateObservation
  nowUnix : Int

/-- Actions under one policy that `requireRuntimeAuthority` lets through one after the other. -/
inductive RuntimeRun (policy : ScopedPolicy) (window : PermissionPeriod → Moment → Window) :
    List (RuntimeAction Moment) → Prop
  | start : RuntimeRun policy window []
  | next {history : List (RuntimeAction Moment)} {action : RuntimeAction Moment} {grant : RuntimeGrant}
      (usage : List CumulativeSpend) (earlier : RuntimeRun policy window history)
      (granted : action.record.descriptor.policy = policy)
      (books : Books window (history.map (·.passed)) action.passed.moment usage)
      (admitted : admitRuntimeAction action.record action.observation action.passed.request usage action.nowUnix = .ok grant) :
      RuntimeRun policy window (history ++ [action])

/-- The action was let through by a live read of an active session, at most a minute before, and before the expiry. -/
structure RuntimeAction.Live (policy : ScopedPolicy) (action : RuntimeAction Moment) : Prop where
  active : action.observation.status = .active
  bound : action.observation.sessionId = action.record.descriptor.sessionId
  digest : ∃ text, authorityPolicyDigest policy = .ok text ∧ action.observation.policyDigest.map lower = some (lower text)
  past : action.observation.observedAtUnix ≤ action.nowUnix
  fresh : action.nowUnix ≤ action.observation.observedAtUnix + 60
  source : action.observation.source ≠ .test ∧ action.observation.source ≠ .keystoreRead
  before : action.nowUnix < policy.expiresAtUnix

variable {policy : ScopedPolicy} {record : CreatorAuthorityRecord} {observation : SessionStateObservation}
  {request : ActionRequest} {usage : List CumulativeSpend} {nowUnix : Int} {grant : RuntimeGrant}

omit [Keccak256] in
theorem executionGate_allowed {descriptor : RuntimeSessionDescriptor}
    (allowed : (executionGate descriptor observation request usage nowUnix).allowed = true) :
    observation.status = .active ∧ assertFreshActiveAuthority descriptor observation nowUnix = .ok () ∧
      assertActionWithinPolicy descriptor.policy request nowUnix usage = .ok () := by
  unfold executionGate at allowed
  dsimp only at allowed
  split at allowed
  · rename_i passed
    obtain ⟨_, fresh, passed⟩ := bind_eq_ok.mp passed
    cases status : observation.status with
    | active =>
      rw [status] at passed
      obtain ⟨_, _, passed⟩ := bind_eq_ok.mp passed
      obtain ⟨_, within, _⟩ := bind_eq_ok.mp passed
      exact ⟨rfl, fresh, within⟩
    | _ =>
      rw [status] at passed
      cases passed
  · cases allowed
  · cases allowed

theorem admitRuntimeAction_ok (admitted : admitRuntimeAction record observation request usage nowUnix = .ok grant) :
    assertBoundFreshObservation record.descriptor observation nowUnix = .ok () ∧ observation.status = .active ∧
      assertActionWithinPolicy record.descriptor.policy request nowUnix usage = .ok () := by
  obtain ⟨_, bound, admitted⟩ := bind_eq_ok.mp admitted
  obtain ⟨_, passed, _⟩ := bind_eq_ok.mp admitted
  have allowed := Bool.eq_true_of_not_eq_false (refuse_eq_ok.mp passed)
  obtain ⟨active, _, within⟩ := executionGate_allowed allowed
  refine ⟨bound, ?_, within⟩
  unfold effectiveObservation at active
  split at active
  · cases active
  · exact active

theorem admitRuntimeAction_live {action : RuntimeAction Moment} (own : action.record.descriptor.policy = policy)
    (admitted : admitRuntimeAction action.record action.observation action.passed.request usage action.nowUnix = .ok grant) :
    action.Live policy := by
  obtain ⟨bound, active, within⟩ := admitRuntimeAction_ok admitted
  subst own
  obtain ⟨_, described, bound⟩ := bind_eq_ok.mp bound
  obtain ⟨_, live, bound⟩ := bind_eq_ok.mp bound
  obtain ⟨text, digest, described⟩ := bind_eq_ok.mp described
  have same := not_not.mp (refuse_eq_ok.mp described)
  obtain ⟨notTest, notKeystore⟩ := not_or.mp (refuse_eq_ok.mp live)
  simp only [refuse_eq_ok, not_or, not_not, not_lt] at bound
  obtain ⟨_, _, session, digests, past, fresh⟩ := bound
  exact ⟨active, session, ⟨text, digest, digests.trans same⟩, past, by omega, ⟨notTest, notKeystore⟩,
    (assertActionWithinPolicy_eq_ok.mp within).valid.before⟩

variable {window : PermissionPeriod → Moment → Window} {history : List (RuntimeAction Moment)}

theorem RuntimeRun.spends (run : RuntimeRun policy window history) : SpendRun policy window (history.map (·.passed)) := by
  induction run with
  | start => exact .start
  | @next history action grant usage earlier granted books admitted ih =>
    rw [List.map_append]
    exact .next action.nowUnix usage ih books (granted ▸ (admitRuntimeAction_ok admitted).2.2)

theorem RuntimeRun.live (run : RuntimeRun policy window history) : ∀ action ∈ history, action.Live policy := by
  induction run with
  | start => exact fun _ member => (nomatch member)
  | next usage earlier granted books admitted ih =>
    intro action member
    rcases List.mem_append.mp member with before | last
    · exact ih action before
    · cases List.mem_singleton.mp last
      exact admitRuntimeAction_live granted admitted

/-- Whatever is let through is within the limits of the policy, before its expiry, and, where the reads are
truthful, at most a minute behind a revocation. -/
theorem RuntimeRun.bounded {normal : ScopedPolicy} (run : RuntimeRun policy window history)
    (accepted : normalizePolicy policy = .ok normal) :
    (∀ action ∈ history, action.Live policy ∧ Named policy action.passed.request) ∧
      (∀ bucket first, permissionOf normal.spend bucket = some first → ∀ now,
        spentIn (window bucket.period) now (inBucket bucket) (history.map (·.passed)) ≤ first.limitAtomic) ∧
      ∀ revokedAt, (∀ action ∈ history, action.observation.status = .active →
          action.observation.observedAtUnix < revokedAt) → ∀ action ∈ history, action.nowUnix < revokedAt + 60 := by
  obtain ⟨acceptable, rfl⟩ := normalizePolicy_eq_ok.mp accepted
  refine ⟨fun action member => ⟨run.live action member, ?_⟩, fun bucket first found now => ?_,
    fun revokedAt truthful action member => ?_⟩
  · exact run.spends.named _ (List.mem_map_of_mem member)
  · have inSpend := List.mem_of_find?_eq_some found
    obtain ⟨source, present, rfl⟩ := List.mem_map.mp ((List.perm_insertionSort _ _).mem_iff.mp inSpend)
    exact run.spends.bucket_within found (acceptable.spend source present).1.nonnegative now
  · have live := run.live action member
    have observed := truthful action member live.active
    have fresh := live.fresh
    omega

end

attribute [local instance] sampleKeccak256

def liveRecord : CreatorAuthorityRecord where
  authorityId := "authority"
  draftId := "draft"
  ownerAddress := "0x1111111111111111111111111111111111111111"
  descriptor := granted
  secretReference := "vault"
  handoff := ⟨"handoff", .localTestOnly, "session", granted.policyDigest, 1700000010⟩
  observation := observed granted .active

/-- An action of 4 wei, ten seconds behind the read. -/
def liveAction : RuntimeAction Nat :=
  ⟨⟨0, spendingRequest 4 [⟨.native, 4, .day⟩]⟩, liveRecord, observed granted .active, 1700000020⟩

theorem RuntimeRun.bounded_live : (∀ action ∈ [liveAction], action.Live granted.policy ∧
      Named granted.policy action.passed.request) ∧
    (∀ bucket first, permissionOf granted.policy.spend bucket = some first → ∀ now,
      spentIn (fun _ : Nat => ()) now (inBucket bucket) ([liveAction].map (·.passed)) ≤ first.limitAtomic) ∧
    ∀ revokedAt, (∀ action ∈ [liveAction], action.observation.status = .active →
      action.observation.observedAtUnix < revokedAt) → ∀ action ∈ [liveAction], action.nowUnix < revokedAt + 60 := by
  have admitted : admitRuntimeAction liveRecord (observed granted .active) (spendingRequest 4 [⟨.native, 4, .day⟩]) []
      1700000020 = .ok ⟨"session", granted.policy, granted.policyDigest, "vault"⟩ := by decide +kernel
  have run : RuntimeRun granted.policy (fun _ (_ : Nat) => ()) [liveAction] := .next [] .start rfl (fun _ => rfl) admitted
  have accepted : normalizePolicy granted.policy = .ok granted.policy := by decide +kernel
  exact RuntimeRun.bounded run accepted

end Bnbera.Altana
