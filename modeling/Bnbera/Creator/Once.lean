import Bnbera.Creator.Moves

namespace Bnbera.Creator

open Interleaving

variable [Sha256]

def Intended (tables : Tables) (id : String) : Prop := tables.hasEvent id "STUDIO_DEPLOY_INTENT" = true

section
variable {tables after : Tables} {op : CreatorCall} {id message : String}

omit [Sha256] in
theorem Tables.hasEvent_iff : tables.hasEvent id message = true ↔
    ∃ event ∈ tables.events, event.deploymentId = id ∧ event.statusMessage = message := by
  simp only [Tables.hasEvent, List.any_eq_true, Bool.and_eq_true, decide_eq_true_eq]

/-- The events that a call adds. -/
theorem Moves.events (moves : Moves tables op after) : ∃ added, after.events = tables.events ++ added ∧
    ∀ event ∈ added, (∃ row ∈ after.deployments, row.id = event.deploymentId) ∧
      (event.statusMessage = "STUDIO_DEPLOY_INTENT" →
        (∃ row, after.deployment event.deploymentId = some row ∧ row.currentStep = .deployReconcile) ∨
        ∃ input, op = .record event.deploymentId input ∧ input.reasonCode = "STUDIO_DEPLOY_INTENT") := by
  have written : ∀ {row : DeploymentRow} {change : DeploymentRow → DeploymentRow} {events : List EventRow},
      row ∈ tables.deployments → (∀ row, (change row).id = row.id) →
      ∃ other ∈ (tables.write row.id change events).deployments, other.id = row.id := by
    intro row change events member keeps
    refine ⟨change row, List.mem_map.mpr ⟨row, member, if_pos rfl⟩, keeps row⟩
  cases moves with
  | same | authorities => exact ⟨[], (List.append_nil _).symm, fun _ member => (List.not_mem_nil member).elim⟩
  | granted made =>
    obtain ⟨_, _, rfl⟩ := made
    exact ⟨[], (List.append_nil _).symm, fun _ member => (List.not_mem_nil member).elim⟩
  | queued made =>
    obtain ⟨_, _, rfl⟩ := made
    refine ⟨_, rfl, fun event member => ?_⟩
    split at member
    · cases member
    · cases List.mem_singleton.mp member
      exact ⟨⟨_, List.mem_append_right _ (List.mem_singleton_self _), rfl⟩, fun named => absurd named (by decide : acceptedMessage ≠ "STUDIO_DEPLOY_INTENT")⟩
  | leased listed events =>
    refine ⟨_, rfl, fun event member => ?_⟩
    rw [events event member]
    exact ⟨written listed fun _ => rfl,
      fun named => absurd named (by decide : "CREATOR_WORKER_CLAIMED" ≠ "STUDIO_DEPLOY_INTENT")⟩
  | recorded found =>
    have same := Tables.deployment_id found
    refine ⟨_, rfl, fun event member => ?_⟩
    cases List.mem_singleton.mp member
    subst same
    exact ⟨written (Tables.deployment_mem found) fun _ => rfl, fun named => .inr ⟨_, rfl, named⟩⟩
  | intended found =>
    have same := Tables.deployment_id found
    refine ⟨_, rfl, fun event member => ?_⟩
    cases List.mem_singleton.mp member
    subst same
    refine ⟨written (Tables.deployment_mem found) fun _ => rfl, fun _ => .inl ⟨_, Tables.found_write (fun _ => rfl) found, ?_⟩⟩
    exact congrArg DeploymentRow.currentStep (if_pos rfl)
  | scaffolded found =>
    have same := Tables.deployment_id found
    refine ⟨_, rfl, fun event member => ?_⟩
    cases List.mem_singleton.mp member
    subst same
    exact ⟨written (Tables.deployment_mem found) fun _ => rfl,
      fun named => absurd named (by decide : "STUDIO_SCAFFOLD_INTENT" ≠ "STUDIO_DEPLOY_INTENT")⟩

theorem Moves.keeps_event (moves : Moves tables op after) (present : tables.hasEvent id message = true) :
    after.hasEvent id message = true := by
  obtain ⟨added, same, _⟩ := moves.events
  obtain ⟨event, member, found⟩ := Tables.hasEvent_iff.mp present
  exact Tables.hasEvent_iff.mpr ⟨event, same ▸ List.mem_append_left _ member, found⟩

theorem Moves.intent (moves : Moves tables op after)
    (plain : ∀ input, op = .record id input → input.reasonCode ≠ "STUDIO_DEPLOY_INTENT") (intended : Intended after id) :
    Intended tables id ∨ ∃ row, after.deployment id = some row ∧ row.currentStep = .deployReconcile := by
  obtain ⟨added, same, each⟩ := moves.events
  obtain ⟨event, member, rfl, named⟩ := Tables.hasEvent_iff.mp intended
  rw [same] at member
  rcases List.mem_append.mp member with old | new
  · exact .inl (Tables.hasEvent_iff.mpr ⟨event, old, rfl, named⟩)
  · rcases (each event new).2 named with claim | ⟨input, recorded, reason⟩
    · exact .inr claim
    · exact absurd reason (plain input recorded)

end

omit [Sha256] in
theorem stepGuard_plain {history : CreatorHistory} {op : CreatorCall} {id : String} (guarded : stepGuard history op)
    (input : RecordInput) (recorded : op = .record id input) : input.reasonCode ≠ "STUDIO_DEPLOY_INTENT" := by
  subst recorded
  obtain ⟨_, _, follows⟩ := guarded
  exact follows.plain

/-- Where a claim was answered, its intent is in the table; and it was answered to one thread only. -/
structure ClaimedOnce (id : String) (s : CreatorState) : Prop where
  recorded : ∀ entry ∈ s.log, claims id entry.2 = true → Intended s.tables id
  once : ∀ entry ∈ s.log, ∀ other ∈ s.log, claims id entry.2 = true → claims id other.2 = true → entry.1 = other.1
  claimed : ∀ i entry, (i, entry) ∈ s.log → starts id entry = true → ∃ claim, (i, claim) ∈ s.log ∧ claims id claim = true
  started : (s.log.countP fun entry => starts id entry.2) ≤ 1

/-- A claim is answered where there was no intent, and leaves one. -/
theorem claim_fresh {i : Nat} {op : CreatorCall} {s s' : CreatorState} {answer : op.Answer} {id : String}
    (called : op.exec i s answer s') (claimed : claims id ⟨op, answer⟩ = true) :
    ¬Intended s.tables id ∧ Intended s'.tables id := by
  unfold claims at claimed
  split at claimed
  · rename_i other claim same
    cases same
    simp only [Bool.and_eq_true, decide_eq_true_eq] at claimed
    obtain ⟨rfl, rfl⟩ := claimed
    obtain ⟨locked, _, ⟨value, made, answered⟩ | ⟨_, _, failed⟩⟩ := called
    · rcases answered with same | ⟨_, failed⟩
      · cases same
        have result := Except.ok.inj made
        unfold recordIntent at result
        split at result
        · cases result
        · rename_i row found
          split at found
          · cases found
          · split at result
            · cases result
            · rename_i free
              simp only [Bool.or_eq_true, not_or, Bool.not_eq_true] at free
              refine ⟨?_, ?_⟩
              · unfold Intended
                rw [free.2]
                exact Bool.false_ne_true
              · rw [← (Prod.mk.inj result).2]
                refine Tables.hasEvent_iff.mpr ⟨intentEvent row, List.mem_append_right _ (List.mem_singleton_self _), ?_, rfl⟩
                exact Tables.deployment_id found
      · cases failed
    · cases failed
  · cases claimed

theorem claimedOnce_step {id : String} {i : Nat} {op : CreatorCall} {s s' : CreatorState} {answer : op.Answer}
    (called : op.exec i s answer s') (logged : s'.log = s.log ++ [(i, ⟨op, answer⟩)])
    (guarded : stepGuard (System.ownCalls s.log i) op) (before : ClaimedOnce id s) : ClaimedOnce id s' := by
  have kept : Intended s.tables id → Intended s'.tables id := (exec_moves called).keeps_event
  have free : ∀ entry ∈ s.log, claims id ⟨op, answer⟩ = true → claims id entry.2 = true → False :=
    fun entry member new old => (claim_fresh called new).1 (before.recorded entry member old)
  refine ⟨?_, ?_, ?_, ?_⟩ <;> rw [logged]
  · intro entry member claimed
    rcases List.mem_append.mp member with old | new
    · exact kept (before.recorded entry old claimed)
    · cases List.mem_singleton.mp new
      exact (claim_fresh called claimed).2
  · intro entry member other otherMember first second
    rcases List.mem_append.mp member with old | new
    · rcases List.mem_append.mp otherMember with otherOld | otherNew
      · exact before.once entry old other otherOld first second
      · cases List.mem_singleton.mp otherNew
        exact (free entry old second first).elim
    · rcases List.mem_append.mp otherMember with otherOld | otherNew
      · cases List.mem_singleton.mp new
        exact (free other otherOld first second).elim
      · rw [List.mem_singleton.mp new, List.mem_singleton.mp otherNew]
  · intro j entry member started
    rcases List.mem_append.mp member with old | new
    · obtain ⟨claim, there, claimed⟩ := before.claimed j entry old started
      exact ⟨claim, List.mem_append_left _ there, claimed⟩
    · cases List.mem_singleton.mp new
      unfold starts at started
      split at started
      · rename_i other command cwd result same
        cases same
        obtain rfl := of_decide_eq_true started
        obtain ⟨claim, own, claimed⟩ := guarded.1
        exact ⟨claim, List.mem_append_left _ (System.mem_ownCalls.mp own), claimed⟩
      · cases started
  · rw [List.countP_append, List.countP_singleton]
    split
    · rename_i started
      -- an earlier start came from the same claim, hence from the same thread
      have none : (s.log.countP fun entry => starts id entry.2) = 0 := by
        refine List.countP_eq_zero.mpr fun entry member old => ?_
        obtain ⟨j, earlier⟩ := entry
        obtain ⟨claim, there, claimed⟩ := before.claimed j earlier member old
        unfold starts at started
        split at started
        · rename_i other command cwd result same
          cases same
          obtain rfl := of_decide_eq_true started
          obtain ⟨mine, own, alsoClaimed⟩ := guarded.1
          have thread : j = i := before.once _ there _ (System.mem_ownCalls.mp own) claimed alsoClaimed
          subst thread
          have unstarted := guarded.2 earlier (System.mem_ownCalls.mpr member)
          rw [unstarted] at old
          cases old
        · cases started
      rw [none]
    · exact before.started

/-- In every run of the worker `studio.run` is started at most once for a deployment. -/
theorem studio_run_once {permits : Circumstance} {pool : CreatorPool} (reach : CreatorReach workersOnly permits pool)
    (id : String) : ClaimedOnce id pool.state := by
  refine reach.guarded ?_ ?_ ?_
  · intro s blank
    refine ⟨?_, ?_, ?_, ?_⟩ <;> rw [blank.log]
    · exact fun _ member => (List.not_mem_nil member).elim
    · exact fun _ member => (List.not_mem_nil member).elim
    · exact fun _ _ member => (List.not_mem_nil member).elim
    · exact Nat.zero_le _
  · exact fun pool i op answer s' _ _ called logged guarded before => claimedOnce_step called logged guarded before
  · intro before after moved held
    have tables : ∀ id, Intended before.tables id → Intended after.tables id := by
      intro id intended
      unfold Intended
      rw [moved.tables]
      exact intended
    refine ⟨?_, ?_, ?_, ?_⟩ <;> rw [moved.log]
    · exact fun entry member claimed => tables id (held.recorded entry member claimed)
    · exact held.once
    · exact held.claimed
    · exact held.started

end Bnbera.Creator
