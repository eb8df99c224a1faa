import Bnbera.Creator.Once

namespace Bnbera.Creator

open Interleaving

section

def CreatorCall.revives : CreatorCall → Option String
  | .record id input => if input.nextState.isLive then some id else none
  | .recordIntent id => some id
  | .recordScaffoldIntent id => some id
  | _ => none

def sparing : Circumstance := fun _ op s => ∀ id, op.revives = some id →
  ∀ row ∈ s.tables.deployments, row.id = id → row.state.isLive = true

/-- The deployments and authorities are the same ones, no deployment has come back to life and no authority has become
active; the new events belong to deployments that were there. -/
structure Continues (before after : Tables) : Prop where
  deployments : ∃ change : DeploymentRow → DeploymentRow, after.deployments = before.deployments.map change ∧
    ∀ row ∈ before.deployments, (change row).id = row.id ∧ (change row).draftId = row.draftId ∧
      ((change row).state.isLive = true → row.state.isLive = true)
  authorities : ∃ change : AuthorityRow → AuthorityRow, after.authorities = before.authorities.map change ∧
    ∀ row, (change row).draftId = row.draftId ∧ (change row).executionWallet = row.executionWallet ∧
      ((change row).status = .active → row.status = .active)
  events : ∃ added, after.events = before.events ++ added ∧
    ∀ event ∈ added, ∃ row ∈ before.deployments, row.id = event.deploymentId

def CreatorCall.inserts : CreatorCall → Bool
  | .commitAuthority .. | .commitDeployment .. => true
  | _ => false

theorem continues_drafts (tables : Tables) (drafts : List DraftRow) : Continues tables { tables with drafts := drafts } where
  deployments := ⟨id, (List.map_id _).symm, fun _ _ => ⟨rfl, rfl, fun live => live⟩⟩
  authorities := ⟨id, (List.map_id _).symm, fun _ => ⟨rfl, rfl, fun active => active⟩⟩
  events := ⟨[], (List.append_nil _).symm, fun _ member => (List.not_mem_nil member).elim⟩

/-- An `UPDATE` of a deployment that keeps what it is about. -/
theorem continues_write {tables : Tables} {id : String} {change : DeploymentRow → DeploymentRow} {events : List EventRow}
    (keeps : ∀ row, (change row).id = row.id ∧ (change row).draftId = row.draftId)
    (sparing : ∀ row ∈ tables.deployments, row.id = id → (change row).state.isLive = true → row.state.isLive = true)
    (belongs : ∀ event ∈ events, ∃ row ∈ tables.deployments, row.id = event.deploymentId) :
    Continues tables (tables.write id change events) where
  deployments := by
    refine ⟨fun row => if row.id = id then change row else row, rfl, fun row member => ?_⟩
    by_cases same : row.id = id
    · simp only [if_pos same]
      exact ⟨(keeps row).1, (keeps row).2, sparing row member same⟩
    · simp only [if_neg same]
      exact ⟨trivial, trivial, fun live => live⟩
  authorities := ⟨fun row => row, (List.map_id _).symm, fun _ => ⟨rfl, rfl, fun active => active⟩⟩
  events := ⟨events, rfl, belongs⟩

theorem withLease_live {row : DeploymentRow} {now : Int} (live : (row.withLease now).state.isLive = true) :
    row.state.isLive = true := by
  by_cases queued : row.state = .queued
  · rw [queued]
    rfl
  · simpa only [DeploymentRow.withLease, if_neg queued] using live

variable [Sha256] {tables after : Tables} {op : CreatorCall}

/-- A call that inserts no row continues what there is, where it is sparing. -/
theorem Moves.continues (moves : Moves tables op after) (other : op.inserts = false)
    (spared : ∀ id, op.revives = some id → ∀ row ∈ tables.deployments, row.id = id → row.state.isLive = true) :
    Continues tables after := by
  cases moves with
  | same => exact continues_drafts tables tables.drafts
  | @authorities _ change each =>
    refine ⟨(continues_drafts tables tables.drafts).deployments, ⟨change, rfl, fun row => ?_⟩,
      (continues_drafts tables tables.drafts).events⟩
    rcases each row with same | ⟨transactionHash, now, same⟩ <;> rw [same]
    · exact ⟨rfl, rfl, fun active => active⟩
    · exact ⟨rfl, rfl, nofun⟩
  | granted | queued => cases other
  | leased listed events =>
    refine continues_write (fun _ => ⟨rfl, rfl⟩) (fun _ _ _ live => withLease_live live) fun event member => ?_
    rw [events event member]
    exact ⟨_, listed, rfl⟩
  | @recorded deploymentId input now prior found =>
    refine continues_write (fun _ => ⟨rfl, rfl⟩) (fun row member same live => ?_) fun event member => ?_
    · exact spared deploymentId (if_pos live) row member same
    · cases List.mem_singleton.mp member
      exact ⟨_, Tables.deployment_mem found, rfl⟩
  | intended found =>
    refine continues_write (fun _ => ⟨rfl, rfl⟩) (fun row member same _ => spared _ rfl row member same) fun event member => ?_
    cases List.mem_singleton.mp member
    exact ⟨_, Tables.deployment_mem found, rfl⟩
  | scaffolded found =>
    refine continues_write (fun _ => ⟨rfl, rfl⟩) (fun row member same _ => spared _ rfl row member same) fun event member => ?_
    cases List.mem_singleton.mp member
    exact ⟨_, Tables.deployment_mem found, rfl⟩

theorem exec_continues {i : Nat} {s s' : CreatorState} {answer : op.Answer} (called : op.exec i s answer s') (spared : sparing i op s) :
    Continues s.tables s'.tables ∨
    (∃ draftId input row, op = .commitAuthority draftId input ∧ i ∉ s.lost ∧ s'.held = released i s.held ∧
      InsertsAuthority draftId input s.now s.tables row s'.tables) ∨
    (∃ draftId configuration authority executionWallet row, op = .commitDeployment draftId configuration authority executionWallet ∧
      i ∉ s.lost ∧ s'.held = released i s.held ∧
      InsertsDeployment draftId configuration authority executionWallet s.now s.tables row s'.tables) := by
  have unchanged : s'.tables = s.tables → Continues s.tables s'.tables := fun same => same ▸ continues_drafts s.tables s.tables.drafts
  by_cases inserting : op.inserts = true
  · cases op with
    | commitAuthority draftId input =>
      rcases called with ⟨connected, freed, row, made, _⟩ | ⟨same, _⟩
      · exact .inr (.inl ⟨draftId, input, row, rfl, connected, freed, made⟩)
      · exact .inl (unchanged same)
    | commitDeployment draftId configuration authority executionWallet =>
      rcases called with ⟨connected, freed, row, made, _⟩ | ⟨same, _⟩
      · exact .inr (.inr ⟨draftId, configuration, authority, executionWallet, row, rfl, connected, freed, made⟩)
      · exact .inl (unchanged same)
    | _ => cases inserting
  · exact .inl ((exec_moves called).continues (Bool.eq_false_iff.mpr inserting) spared)

end

def HasWallet (tables : Tables) (draftId wallet : String) : Prop :=
  ∃ authority ∈ tables.authorities, authority.draftId = draftId ∧ authority.executionWallet = wallet

/-- Every deployment bears the wallet that it was queued with, which is the wallet of an authority of its draft. -/
structure Backed (s : CreatorState) : Prop where
  belongs : ∀ event ∈ s.tables.events, ∃ row ∈ s.tables.deployments, row.id = event.deploymentId
  wallet : ∀ row ∈ s.tables.deployments, ∃ wallet, s.tables.queuedWallet row.id = some wallet ∧
    HasWallet s.tables row.draftId wallet
  granted : ∀ i authorityId draftId wallet,
    (i, (⟨.usableWallet authorityId draftId, .ok (some wallet)⟩ : CreatorEntry)) ∈ s.log → HasWallet s.tables draftId wallet

section
variable {before after : Tables}

theorem Continues.hasWallet {draftId wallet : String} (continued : Continues before after) (has : HasWallet before draftId wallet) :
    HasWallet after draftId wallet := by
  obtain ⟨change, same, keeps⟩ := continued.authorities
  obtain ⟨authority, member, ofDraft, itsWallet⟩ := has
  refine ⟨change authority, same ▸ List.mem_map_of_mem member, ?_, ?_⟩
  · rw [(keeps authority).1, ofDraft]
  · rw [(keeps authority).2.1, itsWallet]

theorem Continues.origin {row : DeploymentRow} (continued : Continues before after) (member : row ∈ after.deployments) :
    ∃ origin ∈ before.deployments, row.id = origin.id ∧ row.draftId = origin.draftId ∧
      (row.state.isLive = true → origin.state.isLive = true) := by
  obtain ⟨change, same, keeps⟩ := continued.deployments
  rw [same] at member
  obtain ⟨origin, old, rfl⟩ := List.mem_map.mp member
  exact ⟨origin, old, keeps origin old⟩

theorem Continues.present {id : String} (continued : Continues before after) (present : ∃ row ∈ before.deployments, row.id = id) :
    ∃ row ∈ after.deployments, row.id = id := by
  obtain ⟨change, same, keeps⟩ := continued.deployments
  obtain ⟨row, member, isId⟩ := present
  exact ⟨change row, same ▸ List.mem_map_of_mem member, (keeps row member).1.trans isId⟩

theorem Tables.queuedWallet_append {id wallet : String} {added : List EventRow} (same : after.events = before.events ++ added)
    (queued : before.queuedWallet id = some wallet) : after.queuedWallet id = some wallet := by
  obtain ⟨event, found, named⟩ := Option.bind_eq_some_iff.mp queued
  refine Option.bind_eq_some_iff.mpr ⟨event, ?_, named⟩
  unfold Tables.accepted
  rw [same, List.find?_append]
  unfold Tables.accepted at found
  rw [found, Option.some_or]

theorem Continues.queuedWallet {id wallet : String} (continued : Continues before after)
    (queued : before.queuedWallet id = some wallet) : after.queuedWallet id = some wallet := by
  obtain ⟨added, same, _⟩ := continued.events
  exact Tables.queuedWallet_append same queued

variable [Sha256]

theorem InsertsDeployment.events {draftId executionWallet : String} {configuration : CreatorRuntimeConfiguration}
    {authority : CreatorRuntimeAuthority} {now : Int} {row : DeploymentRow}
    (made : InsertsDeployment draftId configuration authority executionWallet now before row after)
    (belongs : ∀ event ∈ before.events, ∃ row ∈ before.deployments, row.id = event.deploymentId) :
    after.deployments = before.deployments ++ [row] ∧ after.authorities = before.authorities ∧
      after.events = before.events ++ [acceptedEvent row.id draftId authority executionWallet] := by
  obtain ⟨fresh, _, rfl⟩ := made
  refine ⟨rfl, rfl, congrArg (before.events ++ ·) (if_neg fun already => ?_)⟩
  obtain ⟨event, member, found⟩ := List.any_eq_true.mp already
  simp only [Bool.and_eq_true, decide_eq_true_eq] at found
  obtain ⟨other, old, same⟩ := belongs event member
  exact fresh other old (same.trans found.1)

theorem InsertsDeployment.queuedWallet {draftId executionWallet : String} {configuration : CreatorRuntimeConfiguration}
    {authority : CreatorRuntimeAuthority} {now : Int} {row : DeploymentRow}
    (made : InsertsDeployment draftId configuration authority executionWallet now before row after)
    (belongs : ∀ event ∈ before.events, ∃ row ∈ before.deployments, row.id = event.deploymentId) :
    after.queuedWallet row.id = some executionWallet := by
  have none : before.events.find? (fun event => event.deploymentId = row.id && event.statusMessage = acceptedMessage) = none := by
    rw [List.find?_eq_none]
    intro event member found
    simp only [Bool.and_eq_true, decide_eq_true_eq] at found
    obtain ⟨other, old, same⟩ := belongs event member
    exact made.1 other old (same.trans found.1)
  unfold Tables.queuedWallet Tables.accepted
  rw [(made.events belongs).2.2, List.find?_append, none, Option.none_or, List.find?_cons]
  simp [acceptedEvent]

end

section
variable [Sha256] {i : Nat} {op : CreatorCall} {s s' : CreatorState} {answer : op.Answer}

theorem exec_hasWallet {draftId wallet : String} (called : op.exec i s answer s') (spared : sparing i op s)
    (has : HasWallet s.tables draftId wallet) : HasWallet s'.tables draftId wallet := by
  obtain ⟨authority, member, ofDraft⟩ := has
  rcases exec_continues called spared with continued | ⟨_, _, row, _, _, _, _, _, after⟩ | ⟨_, _, _, _, row, _, _, _, made⟩
  · exact continued.hasWallet ⟨authority, member, ofDraft⟩
  · exact ⟨authority, after ▸ List.mem_append_left _ member, ofDraft⟩
  · exact ⟨authority, made.2.2 ▸ member, ofDraft⟩

omit [Sha256] in
theorem usableWallet_has {authorityId draftId wallet : String} {answer : Except CreatorFailure (Option String)}
    (reads : Reads i (s.tables.usableWallet authorityId draftId s.now) s answer s') (found : answer = .ok (some wallet)) :
    HasWallet s'.tables draftId wallet := by
  subst found
  rw [reads.1]
  rcases reads.2.2 with ⟨_, same⟩ | ⟨_, failed⟩
  · obtain ⟨authority, atRow, itsWallet⟩ := Option.map_eq_some_iff.mp (Except.ok.inj same).symm
    have tests := List.find?_some atRow
    simp only [Bool.and_eq_true, decide_eq_true_eq] at tests
    exact ⟨authority, List.mem_of_find?_eq_some atRow, tests.1.1.2, itsWallet⟩
  · cases failed

theorem backed_step (called : op.exec i s answer s') (spared : sparing i op s) (logged : s'.log = s.log ++ [(i, ⟨op, answer⟩)])
    (guarded : lockGuard (System.ownCalls s.log i) op) (before : Backed s) : Backed s' := by
  have kept : ∀ draftId wallet, HasWallet s.tables draftId wallet → HasWallet s'.tables draftId wallet :=
    fun _ _ has => exec_hasWallet called spared has
  have granted : ∀ j authorityId draftId wallet,
      (j, (⟨.usableWallet authorityId draftId, .ok (some wallet)⟩ : CreatorEntry)) ∈ s'.log → HasWallet s'.tables draftId wallet := by
    intro j authorityId draftId wallet member
    rw [logged] at member
    rcases List.mem_append.mp member with old | new
    · exact kept draftId wallet (before.granted j authorityId draftId wallet old)
    · cases List.mem_singleton.mp new
      exact usableWallet_has called rfl
  rcases exec_continues called spared with continued | ⟨_, _, _, _, _, _, _, _, same⟩ | ⟨_, _, _, _, row, isCommit, _, _, made⟩
  · refine ⟨fun event member => ?_, fun row member => ?_, granted⟩
    · obtain ⟨added, same, each⟩ := continued.events
      rw [same] at member
      rcases List.mem_append.mp member with old | new
      · exact continued.present (before.belongs event old)
      · exact continued.present (each event new)
    · obtain ⟨origin, old, sameId, sameDraft, _⟩ := continued.origin member
      obtain ⟨wallet, queued, has⟩ := before.wallet origin old
      rw [sameId, sameDraft]
      exact ⟨wallet, continued.queuedWallet queued, kept _ _ has⟩
  · have deployments : s'.tables.deployments = s.tables.deployments := by rw [same]
    have events : s'.tables.events = s.tables.events := by rw [same]
    refine ⟨?_, fun row member => ?_, granted⟩
    · rw [deployments, events]
      exact before.belongs
    · rw [deployments] at member
      obtain ⟨wallet, queued, has⟩ := before.wallet row member
      exact ⟨wallet, Tables.queuedWallet_append (events.trans (List.append_nil _).symm) queued, kept _ _ has⟩
  · obtain ⟨deployments, _, events⟩ := made.events before.belongs
    refine ⟨fun event member => ?_, fun other member => ?_, granted⟩
    · rw [events] at member
      rw [deployments]
      rcases List.mem_append.mp member with old | new
      · obtain ⟨found, there, same⟩ := before.belongs event old
        exact ⟨found, List.mem_append_left _ there, same⟩
      · cases List.mem_singleton.mp new
        exact ⟨row, List.mem_append_right _ (List.mem_singleton_self _), rfl⟩
    · rw [deployments] at member
      rcases List.mem_append.mp member with old | new
      · obtain ⟨wallet, queued, has⟩ := before.wallet other old
        exact ⟨wallet, Tables.queuedWallet_append events queued, kept _ _ has⟩
      · cases List.mem_singleton.mp new
        subst isCommit
        obtain ⟨_, _, _, ⟨authorityId, usable⟩, _⟩ := guarded
        refine ⟨_, made.queuedWallet before.belongs, ?_⟩
        rw [made.2.1]
        exact kept _ _ (before.granted i authorityId _ _ (System.mem_ownCalls.mp usable))

end

theorem CreatorReach.backed [Sha256] {admits : CreatorRequest → Prop} {pool : CreatorPool}
    (reach : CreatorReach admits sparing pool) : Backed pool.state := by
  refine reach.invariant ?_ ?_ ?_
  · intro s blank
    refine ⟨?_, ?_, ?_⟩
    · rw [blank.events]
      exact fun _ member => (List.not_mem_nil member).elim
    · rw [blank.deployments]
      exact fun _ member => (List.not_mem_nil member).elim
    · rw [blank.log]
      exact fun _ _ _ _ member => (List.not_mem_nil member).elim
  · exact fun pool i request op answer s' _ _ spared called _ logged guarded held =>
      backed_step called spared logged (callGuard_lock guarded) held
  · intro before after moved held
    have continued : Continues before.tables after.tables := moved.tables ▸ continues_drafts before.tables after.tables.drafts
    refine ⟨fun event member => ?_, fun row member => ?_, fun i authorityId draftId wallet member => ?_⟩
    · rw [moved.tables] at member
      exact continued.present (held.belongs event member)
    · obtain ⟨origin, old, sameId, sameDraft, _⟩ := continued.origin member
      obtain ⟨wallet, queued, has⟩ := held.wallet origin old
      rw [sameId, sameDraft]
      exact ⟨wallet, continued.queuedWallet queued, continued.hasWallet has⟩
    · rw [moved.log] at member
      exact continued.hasWallet (held.granted i authorityId draftId wallet member)

end Bnbera.Creator
