import Bnbera.Creator.Backed
import Bnbera.Creator.Moves
import Bnbera.Creator.Sampling

namespace Bnbera.Creator

open Interleaving

variable [Sha256]

/-- While a thread holds the lock that a read was made under, nothing has come that the read did not find. -/
structure Reserved (s : CreatorState) : Prop where
  draft : ∀ draftId i, (.deployment draftId, i) ∈ s.held →
    (i, (⟨.priorDeployment draftId, .ok none⟩ : CreatorEntry)) ∈ s.log → ∀ row ∈ s.tables.deployments, row.draftId ≠ draftId
  authority : ∀ draftId i, (.browserAuthority draftId, i) ∈ s.held →
    (i, (⟨.activeAuthority draftId, .ok none⟩ : CreatorEntry)) ∈ s.log →
    ∀ row ∈ s.tables.authorities, row.draftId = draftId → row.status ≠ .active
  wallet : ∀ wallet draftId i, (.activeWallet (lower wallet), i) ∈ s.held →
    (i, (⟨.activeForWallet wallet draftId, .ok none⟩ : CreatorEntry)) ∈ s.log →
    ∀ row ∈ s.tables.deployments, row.draftId ≠ draftId → row.state.isLive = true →
    ∀ queued, s.tables.queuedWallet row.id = some queued → lower queued ≠ lower wallet

section
variable {i j : Nat} {op : CreatorCall} {s s' : CreatorState} {answer : op.Answer}

theorem held_before {key : LockKey} {read : CreatorEntry} (called : op.exec i s answer s') (logged : s'.log = s.log ++ [(i, ⟨op, answer⟩)])
    (holds : (key, j) ∈ s'.held) (member : (j, read) ∈ s'.log) (apart : ∀ other, read.op ≠ .lock other)
    (unread : op = .lock key → read ∉ System.ownCalls s.log i) :
    (key, j) ∈ s.held ∧ ((j, read) ∈ s.log ∨ j = i ∧ read = ⟨op, answer⟩) := by
  have entries : (j, read) ∈ s.log ∨ j = i ∧ read = ⟨op, answer⟩ := by
    rw [logged] at member
    rcases List.mem_append.mp member with old | new
    · exact .inl old
    · cases List.mem_singleton.mp new
      exact .inr ⟨rfl, rfl⟩
  refine ⟨?_, entries⟩
  rcases exec_held called with ⟨taking, isLock, _, _, held⟩ | ⟨same, _⟩ | ⟨_, freed⟩
  · rw [held] at holds
    rcases List.mem_cons.mp holds with mine | old
    · cases mine
      rcases entries with earlier | ⟨_, now⟩
      · exact absurd (System.mem_ownCalls.mpr earlier) (unread isLock)
      · exact absurd ((congrArg Answered.op now).trans isLock) (apart _)
    · exact old
  · exact same ▸ holds
  · rw [freed] at holds
    exact (mem_released.mp holds).1

omit [Sha256] in
theorem Exclusive.holds {key : LockKey} (exclusive : Exclusive s) (connected : i ∉ s.lost)
    (opened : Open (System.ownCalls s.log i)) (taking : taken key ∈ System.ownCalls s.log i) : (key, i) ∈ s.held :=
  exclusive.kept key i connected (System.mem_ownCalls.mp taking) opened

omit [Sha256] in
theorem Exclusive.freed {key : LockKey} (exclusive : Exclusive s) (mine : (key, i) ∈ s.held) (freed : s'.held = released i s.held) :
    (key, j) ∉ s'.held := by
  intro holds
  rw [freed] at holds
  obtain ⟨other, apart⟩ := mem_released.mp holds
  exact apart (exclusive.one key j i other mine)

omit [Sha256] in
theorem head_none {α : Type} {rows : List α} {order : α → α → Prop} [DecidableRel order] (none : (rows.insertionSort order).head? = none) :
    rows = [] := by
  have empty := List.head?_eq_none_iff.mp none
  have perm := List.perm_insertionSort order rows
  rw [empty] at perm
  exact perm.symm.eq_nil

omit [Sha256] in
theorem priorDeployment_none {tables : Tables} {draftId : String} (none : tables.priorDeployment draftId = none) :
    ∀ row ∈ tables.deployments, row.draftId ≠ draftId := by
  intro row member same
  exact List.filter_eq_nil_iff.mp (head_none none) row member (decide_eq_true same)

omit [Sha256] in
theorem activeAuthority_none {tables : Tables} {draftId : String} (none : tables.activeAuthority draftId = none) :
    ∀ row ∈ tables.authorities, row.draftId = draftId → row.status ≠ .active := by
  intro row member same active
  have tests := List.filter_eq_nil_iff.mp (head_none none) row member
  rw [same, active] at tests
  exact tests (by simp)

omit [Sha256] in
theorem activeForWallet_none {wallet draftId : String} (none : s.tables.activeForWallet wallet draftId = none) (backed : Backed s) :
    ∀ row ∈ s.tables.deployments, row.draftId ≠ draftId → row.state.isLive = true →
      ∀ queued, s.tables.queuedWallet row.id = some queued → lower queued ≠ lower wallet := by
  intro row member apart live queued found same
  obtain ⟨itsWallet, atRow, authority, there, ofDraft, has⟩ := backed.wallet row member
  cases atRow.symm.trans found
  have unfound := List.find?_eq_none.mp (Option.map_eq_none_iff.mp none) row member
  refine unfound ?_
  simp only [Bool.and_eq_true, decide_eq_true_eq, List.any_eq_true]
  exact ⟨⟨apart, live⟩, authority, there, ofDraft, has ▸ same⟩

omit [Sha256] in
theorem Reads.value {α : Type} {value found : α} {answer : Except CreatorFailure α} (reads : Reads i value s answer s')
    (isFound : answer = .ok found) : value = found := by
  subst isFound
  rcases reads.2.2 with ⟨_, same⟩ | ⟨_, failed⟩
  · exact (Except.ok.inj same).symm
  · cases failed

theorem reserved_draft (called : op.exec i s answer s') (spared : sparing i op s) (logged : s'.log = s.log ++ [(i, ⟨op, answer⟩)])
    (guarded : lockGuard (System.ownCalls s.log i) op) (exclusive : Exclusive s) (before : Reserved s) (draftId : String)
    (holds : (.deployment draftId, j) ∈ s'.held) (member : (j, (⟨.priorDeployment draftId, .ok none⟩ : CreatorEntry)) ∈ s'.log) :
    ∀ row ∈ s'.tables.deployments, row.draftId ≠ draftId := by
  have unread : op = .lock (.deployment draftId) →
      (⟨.priorDeployment draftId, .ok none⟩ : CreatorEntry) ∉ System.ownCalls s.log i := by
    intro isLock found
    subst isLock
    rw [show System.ownCalls s.log i = [] from guarded] at found
    cases found
  obtain ⟨held, earlier | ⟨_, now⟩⟩ := held_before called logged holds member (fun _ => nofun) unread
  · have unfound := before.draft draftId j held earlier
    rcases exec_continues called spared with continued | ⟨_, _, _, _, _, _, _, _, same⟩ | ⟨_, _, _, _, row, isCommit, connected, freed, made⟩
    · intro row there
      obtain ⟨origin, old, _, sameDraft, _⟩ := continued.origin there
      rw [sameDraft]
      exact unfound origin old
    · rw [same]
      exact unfound
    · subst isCommit
      intro other there ofDraft
      rw [made.2.2] at there
      rcases List.mem_append.mp there with old | new
      · exact unfound other old ofDraft
      · cases List.mem_singleton.mp new
        rw [made.2.1] at ofDraft
        cases ofDraft
        exact exclusive.freed (exclusive.holds connected guarded.1 guarded.2.1) freed holds
  · cases now
    rw [show s'.tables = s.tables from called.1]
    exact priorDeployment_none (Reads.value called rfl)

theorem reserved_authority (called : op.exec i s answer s') (spared : sparing i op s) (logged : s'.log = s.log ++ [(i, ⟨op, answer⟩)])
    (guarded : lockGuard (System.ownCalls s.log i) op) (exclusive : Exclusive s) (before : Reserved s) (draftId : String)
    (holds : (.browserAuthority draftId, j) ∈ s'.held) (member : (j, (⟨.activeAuthority draftId, .ok none⟩ : CreatorEntry)) ∈ s'.log) :
    ∀ row ∈ s'.tables.authorities, row.draftId = draftId → row.status ≠ .active := by
  have unread : op = .lock (.browserAuthority draftId) →
      (⟨.activeAuthority draftId, .ok none⟩ : CreatorEntry) ∉ System.ownCalls s.log i := by
    intro isLock found
    subst isLock
    rw [show System.ownCalls s.log i = [] from guarded] at found
    cases found
  obtain ⟨held, earlier | ⟨_, now⟩⟩ := held_before called logged holds member (fun _ => nofun) unread
  · have inactive := before.authority draftId j held earlier
    rcases exec_continues called spared with continued | ⟨_, _, row, isCommit, connected, freed, made⟩ | ⟨_, _, _, _, row, _, _, _, made⟩
    · obtain ⟨change, same, keeps⟩ := continued.authorities
      rw [same]
      intro row there ofDraft active
      obtain ⟨origin, old, rfl⟩ := List.mem_map.mp there
      exact inactive origin old ((keeps origin).1.symm.trans ofDraft) ((keeps origin).2.2 active)
    · subst isCommit
      intro other there ofDraft
      rw [made.2.2] at there
      rcases List.mem_append.mp there with old | new
      · exact inactive other old ofDraft
      · cases List.mem_singleton.mp new
        rw [made.2.1] at ofDraft
        cases ofDraft
        exact absurd holds (exclusive.freed (exclusive.holds connected guarded.1 guarded.2.1) freed)
    · rw [made.2.2]
      exact inactive
  · cases now
    rw [show s'.tables = s.tables from called.1]
    exact activeAuthority_none (Reads.value called rfl)

theorem reserved_wallet (called : op.exec i s answer s') (spared : sparing i op s) (logged : s'.log = s.log ++ [(i, ⟨op, answer⟩)])
    (guarded : lockGuard (System.ownCalls s.log i) op) (exclusive : Exclusive s) (backed : Backed s) (before : Reserved s)
    (wallet draftId : String) (holds : (.activeWallet (lower wallet), j) ∈ s'.held)
    (member : (j, (⟨.activeForWallet wallet draftId, .ok none⟩ : CreatorEntry)) ∈ s'.log) :
    ∀ row ∈ s'.tables.deployments, row.draftId ≠ draftId → row.state.isLive = true →
      ∀ queued, s'.tables.queuedWallet row.id = some queued → lower queued ≠ lower wallet := by
  have unread : op = .lock (.activeWallet (lower wallet)) →
      (⟨.activeForWallet wallet draftId, .ok none⟩ : CreatorEntry) ∉ System.ownCalls s.log i := by
    intro isLock found
    subst isLock
    exact guarded.2 _ found wallet draftId rfl
  obtain ⟨held, earlier | ⟨_, now⟩⟩ := held_before called logged holds member (fun _ => nofun) unread
  · have unfound := before.wallet wallet draftId j held earlier
    rcases exec_continues called spared with continued | ⟨_, _, _, _, _, _, _, _, same⟩ |
      ⟨_, _, _, _, row, isCommit, connected, freed, made⟩
    · intro row there apart live queued isQueued
      obtain ⟨origin, old, sameId, sameDraft, lively⟩ := continued.origin there
      obtain ⟨first, atOrigin, _⟩ := backed.wallet origin old
      cases isQueued.symm.trans (sameId ▸ continued.queuedWallet atOrigin)
      exact unfound origin old (sameDraft ▸ apart) (lively live) _ atOrigin
    · rw [same]
      exact unfound
    · subst isCommit
      intro other there apart live queued isQueued
      obtain ⟨deployments, _, events⟩ := made.events backed.belongs
      rw [deployments] at there
      rcases List.mem_append.mp there with old | new
      · obtain ⟨first, atOther, _⟩ := backed.wallet other old
        cases isQueued.symm.trans (Tables.queuedWallet_append events atOther)
        exact unfound other old apart live _ atOther
      · cases List.mem_singleton.mp new
        cases isQueued.symm.trans (made.queuedWallet backed.belongs)
        intro sameWallet
        have mine := exclusive.holds connected guarded.1 guarded.2.2.1
        rw [sameWallet] at mine
        exact exclusive.freed mine freed holds
  · cases now
    rw [show s'.tables = s.tables from called.1]
    exact activeForWallet_none (Reads.value called rfl) backed

end

theorem CreatorReach.reserved {admits : CreatorRequest → Prop} {pool : CreatorPool}
    (reach : CreatorReach admits sparing pool) : Reserved pool.state := by
  refine reach.invariant ?_ ?_ ?_
  · intro s blank
    refine ⟨?_, ?_, ?_⟩ <;> rw [blank.held]
    · exact fun _ _ member => (List.not_mem_nil member).elim
    · exact fun _ _ member => (List.not_mem_nil member).elim
    · exact fun _ _ _ member => (List.not_mem_nil member).elim
  · intro pool i request op answer s' reach _ spared called _ logged guarded held
    have locks := callGuard_lock guarded
    have exclusive := CreatorReach.exclusive reach
    exact ⟨fun draftId _ => reserved_draft called spared logged locks exclusive held draftId,
      fun draftId _ => reserved_authority called spared logged locks exclusive held draftId,
      fun wallet draftId _ => reserved_wallet called spared logged locks exclusive (CreatorReach.backed reach) held wallet draftId⟩
  · intro before after moved held
    have still : ∀ key i, (key, i) ∈ after.held → (key, i) ∈ before.held := by
      intro key i member
      rcases moved.connections with ⟨_, same⟩ | ⟨_, _, freed⟩
      · exact same ▸ member
      · rw [freed] at member
        exact (mem_released.mp member).1
    refine ⟨?_, ?_, ?_⟩ <;> rw [moved.log, moved.tables]
    · exact fun draftId i member => held.draft draftId i (still _ i member)
    · exact fun draftId i member => held.authority draftId i (still _ i member)
    · exact fun wallet draftId i member => held.wallet wallet draftId i (still _ i member)

/-- One deployment and one active authority of a draft, and one draft of a wallet with a live deployment. -/
structure OnePerWallet (tables : Tables) : Prop where
  deployments : ∀ draftId, (tables.deployments.countP fun row => row.draftId = draftId) ≤ 1
  authorities : ∀ draftId, (tables.authorities.countP fun row => row.draftId = draftId && row.status = .active) ≤ 1
  wallets : ∀ a ∈ tables.deployments, ∀ b ∈ tables.deployments, a.state.isLive = true → b.state.isLive = true →
    ∀ wallet other, tables.queuedWallet a.id = some wallet → tables.queuedWallet b.id = some other →
      lower wallet = lower other → a.draftId = b.draftId

omit [Sha256] in
theorem Continues.onePerWallet {s : CreatorState} {after : Tables} (continued : Continues s.tables after) (backed : Backed s)
    (before : OnePerWallet s.tables) : OnePerWallet after := by
  refine ⟨fun draftId => ?_, fun draftId => ?_, ?_⟩
  · obtain ⟨change, same, keeps⟩ := continued.deployments
    rw [same, List.countP_map]
    refine (List.countP_mono_left fun row member found => ?_).trans (before.deployments draftId)
    exact decide_eq_true ((keeps row member).2.1.symm.trans (of_decide_eq_true found))
  · obtain ⟨change, same, keeps⟩ := continued.authorities
    rw [same, List.countP_map]
    refine (List.countP_mono_left fun row _ found => ?_).trans (before.authorities draftId)
    simp only [Function.comp_apply, Bool.and_eq_true, decide_eq_true_eq] at found ⊢
    exact ⟨(keeps row).1.symm.trans found.1, (keeps row).2.2 found.2⟩
  · intro a memberA b memberB liveA liveB wallet other ofA ofB sameWallet
    obtain ⟨a', oldA, idA, draftA, livelyA⟩ := continued.origin memberA
    obtain ⟨b', oldB, idB, draftB, livelyB⟩ := continued.origin memberB
    obtain ⟨firstA, atA, _⟩ := backed.wallet a' oldA
    obtain ⟨firstB, atB, _⟩ := backed.wallet b' oldB
    cases ofA.symm.trans (idA ▸ continued.queuedWallet atA)
    cases ofB.symm.trans (idB ▸ continued.queuedWallet atB)
    rw [draftA, draftB]
    exact before.wallets a' oldA b' oldB (livelyA liveA) (livelyB liveB) wallet other atA atB sameWallet

section
variable {i : Nat} {op : CreatorCall} {s s' : CreatorState} {answer : op.Answer}

omit [Sha256] in
theorem countP_snoc {α : Type} {rows : List α} {row : α} {test : α → Bool} (once : rows.countP test ≤ 1)
    (first : test row = true → ∀ other ∈ rows, test other = false) : (rows ++ [row]).countP test ≤ 1 := by
  rw [List.countP_append, List.countP_singleton]
  split
  · rename_i passes
    have none : rows.countP test = 0 := List.countP_eq_zero.mpr fun other member => by
      rw [first passes other member]
      exact Bool.false_ne_true
    omega
  · exact once

theorem onePerWallet_step (called : op.exec i s answer s') (spared : sparing i op s)
    (guarded : lockGuard (System.ownCalls s.log i) op) (exclusive : Exclusive s) (backed : Backed s) (reserved : Reserved s)
    (before : OnePerWallet s.tables) : OnePerWallet s'.tables := by
  rcases exec_continues called spared with continued | ⟨draftId, input, row, isCommit, connected, _, made⟩ |
    ⟨draftId, configuration, authority, wallet, row, isCommit, connected, _, made⟩
  · exact continued.onePerWallet backed before
  · subst isCommit
    obtain ⟨opened, locked, read⟩ := guarded
    have unfound := reserved.authority draftId i (exclusive.holds connected opened locked) (System.mem_ownCalls.mp read)
    rw [made.2.2]
    refine ⟨before.deployments, fun other => countP_snoc (before.authorities other) fun passes old member => ?_, before.wallets⟩
    rw [made.2.1] at passes
    simp only [authorityRow, Bool.and_eq_true, decide_eq_true_eq] at passes
    rw [Bool.eq_false_iff]
    simp only [ne_eq, Bool.and_eq_true, decide_eq_true_eq, not_and]
    exact fun ofDraft => unfound old member (ofDraft.trans (of_decide_eq_true passes.1).symm)
  · subst isCommit
    obtain ⟨opened, lockedDraft, lockedWallet, _, unread, absent⟩ := guarded
    have unfound := reserved.draft draftId i (exclusive.holds connected opened lockedDraft) (System.mem_ownCalls.mp absent)
    have free := reserved.wallet wallet draftId i (exclusive.holds connected opened lockedWallet) (System.mem_ownCalls.mp unread)
    obtain ⟨deployments, authorities, events⟩ := made.events backed.belongs
    have isDraft : row.draftId = draftId := by
      rw [made.2.1]
      rfl
    have ofNew := made.queuedWallet backed.belongs
    have ofOld : ∀ old ∈ s.tables.deployments, ∀ queued, s'.tables.queuedWallet old.id = some queued →
        s.tables.queuedWallet old.id = some queued := by
      intro old member queued found
      obtain ⟨first, atOld, _⟩ := backed.wallet old member
      cases found.symm.trans (Tables.queuedWallet_append events atOld)
      exact atOld
    refine ⟨fun other => ?_, ?_, ?_⟩
    · rw [deployments]
      refine countP_snoc (before.deployments other) fun passes old member => ?_
      rw [← of_decide_eq_true passes, isDraft]
      exact decide_eq_false (unfound old member)
    · rw [authorities]
      exact before.authorities
    · rw [deployments]
      intro a memberA b memberB liveA liveB walletA walletB ofA ofB sameWallet
      rcases List.mem_append.mp memberA with oldA | newA <;> rcases List.mem_append.mp memberB with oldB | newB
      · exact before.wallets a oldA b oldB liveA liveB walletA walletB (ofOld a oldA _ ofA) (ofOld b oldB _ ofB) sameWallet
      · cases List.mem_singleton.mp newB
        cases ofB.symm.trans ofNew
        exact absurd sameWallet (free a oldA (unfound a oldA) liveA walletA (ofOld a oldA _ ofA))
      · cases List.mem_singleton.mp newA
        cases ofA.symm.trans ofNew
        exact absurd sameWallet.symm (free b oldB (unfound b oldB) liveB walletB (ofOld b oldB _ ofB))
      · cases List.mem_singleton.mp newA
        cases List.mem_singleton.mp newB
        rfl

end

/-- In every run in which no write takes up an ended deployment, a wallet has one live agent. -/
theorem wallet_one_live {admits : CreatorRequest → Prop} {pool : CreatorPool} (reach : CreatorReach admits sparing pool) :
    OnePerWallet pool.state.tables := by
  refine @CreatorReach.invariant _ admits sparing pool (fun s => OnePerWallet s.tables) reach ?_ ?_ ?_
  · intro s blank
    refine ⟨?_, ?_, ?_⟩
    · rw [blank.deployments]
      exact fun _ => Nat.zero_le _
    · rw [blank.authorities]
      exact fun _ => Nat.zero_le _
    · rw [blank.deployments]
      exact fun _ member => (List.not_mem_nil member).elim
  · exact fun pool i request op answer s' reach _ spared called _ _ guarded held =>
      onePerWallet_step called spared (callGuard_lock guarded) (CreatorReach.exclusive reach) (CreatorReach.backed reach)
        (CreatorReach.reserved reach) held
  · intro before after moved held
    rw [moved.tables]
    exact ⟨held.deployments, held.authorities, held.wallets⟩

instance (i : Nat) (op : CreatorCall) (s : CreatorState) : Decidable (sparing i op s) :=
  decidable_of_iff (∀ id ∈ op.revives, ∀ row ∈ s.tables.deployments, row.id = id → row.state.isLive = true) Iff.rfl

def takenOver : List (Cue CreatorRequest) :=
  queues "a" 0 ++ [.start (.record "deployment-a" ⟨.studioScaffoldPackage, none, none, none, "STUDIO_TEMPLATE_MISMATCH"⟩), .call 2] ++
    queues "b" 3

omit [Sha256] in
theorem wallet_one_live_takenOver : ∃ pool : CreatorPool, @CreatorReach nullSha256 (fun _ => True) sparing pool ∧
    OnePerWallet pool.state.tables ∧ pool.state.tables.deployments.length = 2 := by
  have ends : ((@creatorRun nullSha256 sparing _ takenOver).any fun pool =>
      pool.state.tables.deployments.length = 2) = true := by decide +kernel
  obtain ⟨pool, run, both⟩ := (Option.any_eq_true _ _).mp ends
  have reach := @creatorRun_reach nullSha256 (fun _ => True) sparing _ takenOver pool (fun _ _ => trivial) run
  exact ⟨pool, reach, @wallet_one_live nullSha256 (fun _ => True) pool reach, of_decide_eq_true both⟩

omit [Sha256] in
/-- A late record takes up the failed deployment, whose wallet has another live agent by then. -/
theorem wallet_two_live : ∃ pool : CreatorPool, @CreatorReach nullSha256 (fun _ => True) anyTime pool ∧
    ¬OnePerWallet pool.state.tables := by
  have ends : ((@creatorRun nullSha256 anyTime _ (takenOver ++
      [.start (.record "deployment-a" ⟨.studioScaffoldPackage, none, none, none, "STUDIO_TEMPLATE_READY"⟩), .call 5])).any fun pool =>
      decide (∃ a ∈ pool.state.tables.deployments, ∃ b ∈ pool.state.tables.deployments, a.state.isLive = true ∧
        b.state.isLive = true ∧ pool.state.tables.queuedWallet a.id = some sampleGrant.walletAddress ∧
        pool.state.tables.queuedWallet b.id = some sampleGrant.walletAddress ∧ a.draftId ≠ b.draftId)) = true := by
    decide +kernel
  obtain ⟨pool, run, both⟩ := (Option.any_eq_true _ _).mp ends
  have reach := @creatorRun_reach nullSha256 (fun _ => True) anyTime _ _ pool (fun _ _ => trivial) run
  obtain ⟨a, memberA, b, memberB, liveA, liveB, ofA, ofB, apart⟩ := of_decide_eq_true both
  exact ⟨pool, reach, fun one => apart (one.wallets a memberA b memberB liveA liveB _ _ ofA ofB rfl)⟩

end Bnbera.Creator
