import Bnbera.Creator.Contracts

namespace Bnbera.Creator

open Interleaving

inductive Moves [Sha256] (before : Tables) : CreatorCall → Tables → Prop
  | same {op} : Moves before op before
  | authorities {op change} :
      (∀ row, change row = row ∨ ∃ transactionHash now, change row = AuthorityRow.withRevocation row transactionHash now) →
      Moves before op { before with authorities := before.authorities.map change }
  | granted {draftId input now row after} : InsertsAuthority draftId input now before row after →
      Moves before (.commitAuthority draftId input) after
  | queued {draftId configuration authority executionWallet now row after} :
      InsertsDeployment draftId configuration authority executionWallet now before row after →
      Moves before (.commitDeployment draftId configuration authority executionWallet) after
  | leased {now row events} : row ∈ before.deployments → (∀ event ∈ events, event = claimedEvent row) →
      Moves before .claimNextQueuedDeployment (before.write row.id (·.withLease now) events)
  | recorded {deploymentId input now prior} : before.deployment deploymentId = some prior →
      Moves before (.record deploymentId input) (before.write deploymentId (·.withRecord input now) [recordEvent prior input])
  | intended {deploymentId now row} : before.deployment deploymentId = some row → row.agentCoreArn = none →
      before.hasEvent deploymentId "STUDIO_DEPLOY_INTENT" = false →
      Moves before (.recordIntent deploymentId) (before.write deploymentId (·.withIntent now) [intentEvent row])
  | scaffolded {deploymentId now row} : before.deployment deploymentId = some row → row.currentStep = .studioScaffoldPackage →
      Moves before (.recordScaffoldIntent deploymentId) (before.write deploymentId (·.withScaffold now) [scaffoldEvent row])

section
variable [Sha256] {s s' : CreatorState}

theorem Reads.moves {α : Type} {i : Nat} {value : α} {answer : Except CreatorFailure α} {op : CreatorCall}
    (reads : Reads i value s answer s') : Moves s.tables op s'.tables :=
  reads.1 ▸ .same

theorem Commits.moves {α : Type} {i : Nat} {outcome : α → Tables → Prop} {answer : Except CreatorFailure α} {op : CreatorCall}
    (commits : Commits i outcome s answer s') (each : ∀ value after, outcome value after → Moves s.tables op after) :
    Moves s.tables op s'.tables := by
  rcases commits with ⟨_, _, value, made, _⟩ | ⟨same, _⟩
  · exact each value _ made
  · exact same ▸ .same

theorem Writes.moves {α : Type} {result : Except CreatorFailure (α × Tables)} {answer : Except CreatorFailure α} {op : CreatorCall}
    (writes : Writes result s answer s') (each : ∀ value after, result = .ok (value, after) → Moves s.tables op after) :
    Moves s.tables op s'.tables := by
  rcases writes.2 with ⟨value, made, _⟩ | ⟨same, _⟩
  · exact each value _ made
  · exact same ▸ .same

theorem claimNext_moves (now : Int) (locked : String → Bool) (tables : Tables) :
    Moves tables .claimNextQueuedDeployment (claimNextQueuedDeployment now locked tables).2 := by
  unfold claimNextQueuedDeployment
  dsimp only
  split
  · exact .same
  · rename_i row binding rest sorted
    have listed : (row, binding) ∈ _ := (List.mem_insertionSort _).mp (sorted ▸ List.mem_cons_self)
    obtain ⟨found, member, made⟩ := List.mem_filterMap.mp listed
    refine .leased ?_ fun event member => ?_
    · split at made
      · obtain ⟨_, _, same⟩ := Option.map_eq_some_iff.mp made
        cases same
        exact member
      · cases made
    split at member
    · exact List.mem_singleton.mp member
    · cases member

theorem recordIntent_moves (locked : Bool) (deploymentId : String) (now : Int) (tables : Tables) :
    Moves tables (.recordIntent deploymentId) (recordIntent locked deploymentId now tables).2 := by
  unfold recordIntent
  split
  · exact .same
  · rename_i row found
    split
    · exact .same
    · rename_i free
      split at found
      · cases found
      · simp only [Bool.or_eq_true, not_or, Bool.not_eq_true, Option.isSome_eq_false_iff, Option.isNone_iff_eq_none] at free
        exact .intended found free.1 free.2

theorem recordScaffoldIntent_moves (locked : Bool) (deploymentId : String) (now : Int) (tables : Tables) :
    Moves tables (.recordScaffoldIntent deploymentId) (recordScaffoldIntent locked deploymentId now tables).2 := by
  unfold recordScaffoldIntent
  split
  · exact .same
  · rename_i row found
    split
    · exact .same
    · rename_i stage
      split
      · exact .same
      · split at found
        · cases found
        · exact .scaffolded found (not_not.mp stage)

theorem recordBrowserRevocation_moves {userId authorityId sessionPublicKey : String} {transactionHash : Option String} {now : Int}
    {tables after : Tables} {value : CreatorBrowserAuthority} {op : CreatorCall}
    (made : recordBrowserRevocation userId authorityId sessionPublicKey transactionHash now tables = .ok (value, after)) :
    Moves tables op after := by
  unfold recordBrowserRevocation at made
  split at made
  · cases made
  · cases made
    refine .authorities fun row => ?_
    split
    · exact .inr ⟨transactionHash, now, rfl⟩
    · exact .inl rfl

/-- One inversion of every call. -/
theorem exec_moves {i : Nat} {op : CreatorCall} {answer : op.Answer} (called : op.exec i s answer s') :
    Moves s.tables op s'.tables := by
  cases op with
  | lock => exact called.1 ▸ .same
  | rollback => exact called.1 ▸ .same
  | ownDraft | activeAuthority | usableWallet | activeForWallet | priorDeployment => exact Reads.moves called
  | commit =>
    have commits : Commits i (fun _ after => after = s.tables) s answer s' := called
    refine commits.moves fun _ after same => ?_
    subst same
    exact .same
  | commitAuthority => exact Commits.moves called fun _ _ made => .granted made
  | commitDeployment => exact Commits.moves called fun _ _ made => .queued made
  | claimNextQueuedDeployment =>
    obtain ⟨locked, writes⟩ := called
    refine writes.moves fun value after same => ?_
    have moved := claimNext_moves s.now locked s.tables
    rwa [Except.ok.inj same] at moved
  | recordBrowserRevocation => exact Writes.moves called fun _ _ made => recordBrowserRevocation_moves made
  | record deploymentId input =>
    refine Writes.moves called fun value after made => ?_
    unfold record at made
    split at made
    · cases made
    · rename_i prior found
      cases made
      exact .recorded found
  | recordIntent =>
    obtain ⟨locked, writes⟩ := called
    refine writes.moves fun value after same => ?_
    rename_i deploymentId
    have moved := recordIntent_moves locked deploymentId s.now s.tables
    rwa [Except.ok.inj same] at moved
  | recordScaffoldIntent =>
    obtain ⟨locked, writes⟩ := called
    refine writes.moves fun value after same => ?_
    rename_i deploymentId
    have moved := recordScaffoldIntent_moves locked deploymentId s.now s.tables
    rwa [Except.ok.inj same] at moved
  | load | hasDeployIntent => exact called.1.1 ▸ .same
  | _ => exact called.1 ▸ .same

end

inductive RowMoves (before : Tables) (deploymentId : String) (row : DeploymentRow) : CreatorCall → DeploymentRow → Prop
  | kept {op} : RowMoves before deploymentId row op row
  | leased {now} : RowMoves before deploymentId row .claimNextQueuedDeployment (row.withLease now)
  | recorded {input now} : RowMoves before deploymentId row (.record deploymentId input) (row.withRecord input now)
  | intended {now} : row.agentCoreArn = none → before.hasEvent deploymentId "STUDIO_DEPLOY_INTENT" = false →
      RowMoves before deploymentId row (.recordIntent deploymentId) (row.withIntent now)
  | scaffolded {now} : row.currentStep = .studioScaffoldPackage →
      RowMoves before deploymentId row (.recordScaffoldIntent deploymentId) (row.withScaffold now)

section
variable {tables after : Tables} {deploymentId id : String} {row row' : DeploymentRow} {op : CreatorCall}
  {change : DeploymentRow → DeploymentRow} {events : List EventRow}

theorem Tables.deployment_id (found : tables.deployment id = some row) : row.id = id := by
  have same := List.find?_some found
  exact of_decide_eq_true same

theorem Tables.deployment_mem (found : tables.deployment id = some row) : row ∈ tables.deployments := List.mem_of_find?_eq_some found

theorem Tables.deployment_write (keeps : ∀ row, (change row).id = row.id) :
    (tables.write deploymentId change events).deployment id =
      (tables.deployment id).map fun row => if id = deploymentId then change row else row := by
  unfold Tables.write Tables.deployment
  dsimp only
  induction tables.deployments with
  | nil => rfl
  | cons first rest ih =>
    rw [List.map_cons, List.find?_cons, List.find?_cons]
    have same : (if first.id = deploymentId then change first else first).id = first.id := by
      split
      · exact keeps first
      · rfl
    by_cases found : first.id = id
    · rw [same, decide_eq_true found, ← found]
      rfl
    · rw [same, decide_eq_false found]
      exact ih

theorem Tables.found_write (keeps : ∀ row, (change row).id = row.id) (found : tables.deployment id = some row) :
    (tables.write deploymentId change events).deployment id = some (if id = deploymentId then change row else row) := by
  rw [Tables.deployment_write keeps, found, Option.map_some]

theorem Tables.not_written (found : (tables.write deploymentId change events).deployment id = some row')
    (keeps : ∀ row, (change row).id = row.id) (absent : tables.deployment id = none) : False := by
  rw [Tables.deployment_write keeps, absent] at found
  cases found

theorem Tables.deployment_append {row : DeploymentRow} {rows : List DeploymentRow}
    (fresh : ∀ other ∈ rows, other.id ≠ row.id) :
    (rows ++ [row]).find? (·.id = id) = if id = row.id then some row else rows.find? (·.id = id) := by
  rw [List.find?_append]
  by_cases same : id = row.id
  · subst same
    have absent : rows.find? (·.id = row.id) = none := by
      rw [List.find?_eq_none]
      exact fun other member found => fresh other member (of_decide_eq_true found)
    rw [absent, if_pos rfl]
    simp
  · have other : [row].find? (·.id = id) = none := by
      rw [List.find?_eq_none]
      intro found member isId
      cases List.mem_singleton.mp member
      exact same (of_decide_eq_true isId).symm
    rw [other, if_neg same, Option.or_none]

variable [Sha256]

/-- A deployment that is there stays there, and only its own calls change it. -/
theorem Moves.deployment (moves : Moves tables op after) (found : tables.deployment id = some row) :
    ∃ row', after.deployment id = some row' ∧ RowMoves tables id row op row' := by
  cases moves with
  | same => exact ⟨row, found, .kept⟩
  | authorities => exact ⟨row, found, .kept⟩
  | granted made =>
    obtain ⟨_, _, rfl⟩ := made
    exact ⟨row, found, .kept⟩
  | queued made =>
    obtain ⟨fresh, _, rfl⟩ := made
    refine ⟨row, ?_, .kept⟩
    refine (Tables.deployment_append fresh).trans ?_
    rw [if_neg]
    · exact found
    · rintro rfl
      exact fresh row (Tables.deployment_mem found) (Tables.deployment_id found)
  | leased =>
    rename_i now leased events
    refine ⟨_, Tables.found_write (fun _ => rfl) found, ?_⟩
    split
    · exact .leased
    · exact .kept
  | recorded =>
    refine ⟨_, Tables.found_write (fun _ => rfl) found, ?_⟩
    split
    · rename_i same
      subst same
      exact .recorded
    · exact .kept
  | intended atId unnamed fresh =>
    refine ⟨_, Tables.found_write (fun _ => rfl) found, ?_⟩
    split
    · rename_i same
      subst same
      cases atId.symm.trans found
      exact .intended unnamed fresh
    · exact .kept
  | scaffolded atId stage =>
    refine ⟨_, Tables.found_write (fun _ => rfl) found, ?_⟩
    split
    · rename_i same
      subst same
      cases atId.symm.trans found
      exact .scaffolded stage
    · exact .kept

theorem Moves.born (moves : Moves tables op after) (absent : tables.deployment id = none) (found : after.deployment id = some row') :
    ∃ draftId configuration authority executionWallet now,
      op = .commitDeployment draftId configuration authority executionWallet ∧ row' = deploymentRow id draftId configuration now := by
  cases moves with
  | same | authorities => cases absent.symm.trans found
  | granted made =>
    obtain ⟨_, _, rfl⟩ := made
    cases absent.symm.trans found
  | queued made =>
    rename_i draftId configuration authority executionWallet now row
    obtain ⟨fresh, isRow, rfl⟩ := made
    have inserted : _ = some row' := (Tables.deployment_append fresh).symm.trans found
    split at inserted
    · rename_i same
      subst same
      cases inserted
      exact ⟨draftId, configuration, authority, executionWallet, now, rfl, isRow⟩
    · cases absent.symm.trans inserted
  | leased | recorded | intended | scaffolded =>
    exact (Tables.not_written found (fun _ => rfl) absent).elim

end

/-- Every lock has one holder. A thread holds the locks that it took until its transaction ends or its connection is lost. -/
structure Exclusive (s : CreatorState) : Prop where
  one : ∀ key i j, (key, i) ∈ s.held → (key, j) ∈ s.held → i = j
  lost : ∀ key i, i ∈ s.lost → (key, i) ∉ s.held
  kept : ∀ key i, i ∉ s.lost → (i, taken key) ∈ s.log → Open (System.ownCalls s.log i) → (key, i) ∈ s.held

theorem mem_released {key : LockKey} {i j : Nat} {held : List (LockKey × Nat)} :
    (key, j) ∈ released i held ↔ (key, j) ∈ held ∧ j ≠ i := by
  simp only [released, List.mem_filter, decide_eq_true_eq, ne_eq]

section
variable {α : Type} {i : Nat} {s s' : CreatorState}

theorem Commits.held {outcome : α → Tables → Prop} {answer : Except CreatorFailure α} (commits : Commits i outcome s answer s') :
    s'.held = s.held ∨ s'.held = released i s.held := by
  rcases commits with ⟨_, freed, _⟩ | ⟨_, same, _⟩
  · exact .inr freed
  · exact .inl same

/-- What a call does to the locks: one is taken that nobody else holds, or those of an ended transaction are released. -/
theorem exec_held [Sha256] {op : CreatorCall} {answer : op.Answer} (called : op.exec i s answer s') :
    (∃ key, op = .lock key ∧ i ∉ s.lost ∧ (∀ j, (key, j) ∈ s.held → j = i) ∧ s'.held = (key, i) :: s.held) ∨
    (s'.held = s.held ∧ ∀ key, (⟨op, answer⟩ : CreatorEntry) ≠ taken key) ∨
    (op.isEnd = true ∧ s'.held = released i s.held) := by
  cases op with
  | lock key =>
    rcases called.2 with ⟨connected, free, held, _⟩ | ⟨same, error, failed⟩
    · exact .inl ⟨key, rfl, connected, free, held⟩
    · refine .inr (.inl ⟨same, fun other taking => ?_⟩)
      subst failed
      cases taking
  | rollback => exact .inr (.inr ⟨rfl, called.2⟩)
  | commit =>
    have commits : Commits i (fun _ after => after = s.tables) s answer s' := called
    rcases commits.held with same | freed
    · exact .inr (.inl ⟨same, fun _ => nofun⟩)
    · exact .inr (.inr ⟨rfl, freed⟩)
  | commitAuthority | commitDeployment =>
    rcases Commits.held called with same | freed
    · exact .inr (.inl ⟨same, fun _ => nofun⟩)
    · exact .inr (.inr ⟨rfl, freed⟩)
  | ownDraft | activeAuthority | usableWallet | activeForWallet | priorDeployment => exact .inr (.inl ⟨called.2.1, fun _ => nofun⟩)
  | claimNextQueuedDeployment | recordIntent | recordScaffoldIntent =>
    obtain ⟨_, writes⟩ := called
    exact .inr (.inl ⟨writes.1, fun _ => nofun⟩)
  | recordBrowserRevocation | record => exact .inr (.inl ⟨called.1, fun _ => nofun⟩)
  | load | hasDeployIntent => exact .inr (.inl ⟨called.1.2, fun _ => nofun⟩)
  | _ => exact .inr (.inl ⟨called.2, fun _ => nofun⟩)

theorem open_earlier {log : List (Nat × CreatorEntry)} {entry : Nat × CreatorEntry} (opened : Open (System.ownCalls (log ++ [entry]) i)) :
    Open (System.ownCalls log i) := by
  intro found member
  exact opened found (System.mem_ownCalls.mpr (List.mem_append_left _ (System.mem_ownCalls.mp member)))

theorem exclusive_step [Sha256] {op : CreatorCall} {answer : op.Answer} (called : op.exec i s answer s') (lost : s'.lost = s.lost)
    (logged : s'.log = s.log ++ [(i, ⟨op, answer⟩)]) (before : Exclusive s) : Exclusive s' := by
  rcases exec_held called with ⟨key, isLock, connected, free, held⟩ | ⟨same, other⟩ | ⟨ended, freed⟩
  · refine ⟨fun other j k first second => ?_, fun other j gone => ?_, fun other j connected member opened => ?_⟩
    · rw [held] at first second
      rcases List.mem_cons.mp first with mine | old <;> rcases List.mem_cons.mp second with alsoMine | alsoOld
      · cases mine
        cases alsoMine
        rfl
      · cases mine
        exact (free k alsoOld).symm
      · cases alsoMine
        exact free j old
      · exact before.one other j k old alsoOld
    · rw [held]
      rw [lost] at gone
      intro member
      rcases List.mem_cons.mp member with mine | old
      · cases mine
        exact connected gone
      · exact before.lost other j gone old
    · rw [held]
      rw [logged] at member opened
      rw [lost] at connected
      rcases List.mem_append.mp member with old | new
      · exact List.mem_cons_of_mem _ (before.kept other j connected old (open_earlier opened))
      · subst isLock
        cases List.mem_singleton.mp new
        exact List.mem_cons_self
  · refine ⟨fun key j k first second => ?_, fun key j gone => ?_, fun key j connected member opened => ?_⟩
    · rw [same] at first second
      exact before.one key j k first second
    · rw [same]
      rw [lost] at gone
      exact before.lost key j gone
    · rw [same]
      rw [logged] at member opened
      rw [lost] at connected
      rcases List.mem_append.mp member with old | new
      · exact before.kept key j connected old (open_earlier opened)
      · exact absurd (Prod.mk.inj (List.mem_singleton.mp new)).2.symm (other key)
  · refine ⟨fun key j k first second => ?_, fun key j gone => ?_, fun key j connected member opened => ?_⟩
    · rw [freed] at first second
      exact before.one key j k (mem_released.mp first).1 (mem_released.mp second).1
    · rw [freed]
      rw [lost] at gone
      exact fun member => before.lost key j gone (mem_released.mp member).1
    · rw [freed]
      rw [logged] at member opened
      rw [lost] at connected
      by_cases mine : j = i
      · subst mine
        have notEnd := opened _ (System.mem_ownCalls.mpr (List.mem_append_right _ (List.mem_singleton_self _)))
        rw [ended] at notEnd
        cases notEnd
      · rcases List.mem_append.mp member with old | new
        · exact mem_released.mpr ⟨before.kept key j connected old (open_earlier opened), mine⟩
        · exact absurd (Prod.mk.inj (List.mem_singleton.mp new)).1 mine

theorem exclusive_elsewhere (moved : Elsewhere s s') (before : Exclusive s) : Exclusive s' := by
  rcases moved.connections with ⟨lost, held⟩ | ⟨j, lost, held⟩
  · refine ⟨?_, ?_, ?_⟩ <;> rw [held]
    · exact before.one
    · rw [lost]
      exact before.lost
    · rw [lost, moved.log]
      exact before.kept
  · refine ⟨?_, ?_, ?_⟩ <;> rw [held]
    · exact fun key i k first second => before.one key i k (mem_released.mp first).1 (mem_released.mp second).1
    · rw [lost]
      intro key i gone member
      rcases List.mem_cons.mp gone with same | old
      · exact (mem_released.mp member).2 same
      · exact before.lost key i old (mem_released.mp member).1
    · rw [lost, moved.log]
      intro key i connected member opened
      exact mem_released.mpr ⟨before.kept key i (fun gone => connected (List.mem_cons_of_mem _ gone)) member opened,
        fun same => connected (same ▸ List.mem_cons_self)⟩

end

theorem CreatorReach.exclusive [Sha256] {admits : CreatorRequest → Prop} {permits : Circumstance} {pool : CreatorPool}
    (reach : CreatorReach admits permits pool) : Exclusive pool.state := by
  refine reach.invariant ?_ ?_ fun _ _ moved held => exclusive_elsewhere moved held
  · intro s blank
    refine ⟨?_, ?_, ?_⟩
    · rw [blank.held]
      exact fun _ _ _ member => (List.not_mem_nil member).elim
    · rw [blank.held]
      exact fun _ _ _ member => (List.not_mem_nil member).elim
    · rw [blank.log]
      exact fun _ _ _ member => (List.not_mem_nil member).elim
  · exact fun pool i request op answer s' _ _ _ called lost logged _ held => exclusive_step called lost logged held

end Bnbera.Creator
