import Bnbera.Publication.Leases
import Bnbera.Publication.Runs

namespace Bnbera.Publication

open Interleaving

def Missing : Entry → Prop
  | ⟨.reconcileCreate _, .ok reconciliation⟩ => reconciliation.status = .missing
  | _ => False

def Present : Entry → Prop
  | ⟨.reconcileCreate _, .ok reconciliation⟩ => reconciliation.status = .present
  | _ => False

def InspectedMissing : Entry → Prop
  | ⟨.inspectObject _, .ok inspected⟩ => inspected.status = .missing
  | _ => False

theorem InspectedMissing.entry {entry : Entry} (missing : InspectedMissing entry) :
    ∃ input inspected, entry = ⟨.inspectObject input, .ok inspected⟩ := by
  unfold InspectedMissing at missing
  split at missing
  · exact ⟨_, _, rfl⟩
  · exact missing.elim

def SavedUnknown : Entry → Prop
  | ⟨.save record _ _ _, .ok ()⟩ => UnknownCreate record
  | _ => False

def Since (event : Entry → Prop) (log : List Logged) (key : String) : Prop :=
  ∃ before logged after, log = before ++ logged :: after ∧ logged.request.recordKey = key ∧ event logged.entry ∧
    ∀ later ∈ after, later.request.recordKey = key → ¬Missing later.entry

theorem since_next {event : Entry → Prop} {log : List Logged} {new : Logged} {key : String} :
    Since event (log ++ [new]) key ↔ new.request.recordKey = key ∧ event new.entry ∨
      Since event log key ∧ ¬(new.request.recordKey = key ∧ Missing new.entry) := by
  constructor
  · rintro ⟨before, logged, after, split, own, happened, none⟩
    rcases split_concat split with ⟨rfl, rfl⟩ | ⟨rest, earlier⟩
    · exact .inl ⟨own, happened⟩
    · have same : after = rest ++ [new] := by
        rw [earlier, List.append_assoc] at split
        exact (List.cons.inj (List.append_cancel_left split)).2.symm
      subst same
      refine .inr ⟨⟨before, logged, rest, earlier, own, happened, fun later member => ?_⟩, fun missing => ?_⟩
      · exact none later (List.mem_append_left _ member)
      · exact none new List.mem_concat_self missing.1 missing.2
  · rintro (⟨own, happened⟩ | ⟨⟨before, logged, after, rfl, own, happened, none⟩, kept⟩)
    · exact ⟨log, new, [], rfl, own, happened, fun _ member => (List.not_mem_nil member).elim⟩
    · refine ⟨before, logged, after ++ [new], List.append_assoc _ _ _, own, happened, fun later member => ?_⟩
      rcases List.mem_append.mp member with old | last
      · exact none later old
      · cases List.mem_singleton.mp last
        exact fun own missing => kept ⟨own, missing⟩

def Accounted (log : List Logged) (key : String) : Prop := Since SavedUnknown log key → Since Present log key

theorem Accounted.next {log : List Logged} {new : Logged} {key : String} (accounted : Accounted log key)
    (other : ¬(new.request.recordKey = key ∧ SavedUnknown new.entry)) : Accounted (log ++ [new]) key := by
  intro unknown
  rcases since_next.mp unknown with now | ⟨before, kept⟩
  · exact absurd now other
  · exact since_next.mpr (.inr ⟨accounted before, kept⟩)

theorem accounted_reconciled {log : List Logged} {i : Nat} {request : PublicationRequest} {entry : Entry}
    (reconciled : Reconciled entry) : Accounted (log ++ [⟨i, request, entry⟩]) request.recordKey := by
  unfold Reconciled at reconciled
  split at reconciled
  · rename_i input reconciliation
    intro unknown
    rcases since_next.mp unknown with ⟨_, now⟩ | ⟨_, kept⟩
    · exact now.elim
    · refine since_next.mpr (.inl ⟨rfl, ?_⟩)
      cases status : reconciliation.status with
      | missing => exact absurd ⟨rfl, status⟩ kept
      | present => exact status
      | unknown => exact absurd status reconciled
  · exact reconciled.elim

def Exclusive (s : PublicationState) (entry : Entry) : Prop :=
  ∀ leased ∈ acquired entry, leased.state = .creatingObject →
    ∀ stored ∈ s.store.records.get leased.idempotencyKey.text, ∀ i, held (s.own i) = some stored → i ∈ s.dead

def Consistent (s : PublicationState) (request : PublicationRequest) (entry : Entry) : Prop :=
  InspectedMissing entry → ¬Since Present s.log request.recordKey

/-- A call that has read a failure to be retried does not acquire the lease of a create that is unknown by then. -/
def Aware (own : Calls) (entry : Entry) : Prop :=
  ∀ leased ∈ acquired entry, UnknownCreate leased → ∀ read ∈ own, ¬ReadAs RetryableFailure read

def orderly : Condition := fun s i request entry => Exclusive s entry ∧ Consistent s request entry ∧ Aware (s.own i) entry

def Creating (own : Calls) : Prop := ∃ before input, own = before ++ [⟨.createObject input, ()⟩]

theorem Creating.apart {own before : Calls} {entry : Entry} (creating : Creating own) (split : own = before ++ [entry]) :
    ¬InspectedMissing entry := by
  obtain ⟨_, input, ends⟩ := creating
  have last : entry = ⟨.createObject input, ()⟩ := List.singleton_inj.mp (List.append_inj' (split.symm.trans ends) rfl).2
  rw [last]
  exact id

structure Orderly (s : PublicationState) : Prop where
  current : ∀ i prior, i ∉ s.dead → held (s.own i) = some prior → prior.state = .creatingObject →
    s.store.records.get prior.idempotencyKey.text = some prior
  begun : ∀ i, ∀ entry ∈ s.own i, Reconciled entry → ∃ granted ∈ s.own i, ∃ record, Grants record granted
  aware : ∀ i prior, Leased prior (s.own i) → UnknownCreate prior → ∀ entry ∈ s.own i, ¬ReadAs RetryableFailure entry
  reconciled : ∀ i prior, held (s.own i) = some prior → Leased prior (s.own i) →
    s.store.records.get prior.idempotencyKey.text = some prior → (∃ entry ∈ s.own i, Reconciled entry) →
    Accounted s.log prior.idempotencyKey.text
  accounted : ∀ key, (∃ stored, s.store.records.get key = some stored ∧ UnknownCreate stored) ∨ Accounted s.log key
  inspected : ∀ i prior before entry, i ∉ s.dead → held (s.own i) = some prior → prior.state = .creatingObject →
    s.own i = before ++ [entry] → InspectedMissing entry → ¬Since SavedUnknown s.log prior.idempotencyKey.text
  creating : ∀ i, Creating (s.own i) → ∃ prior, held (s.own i) = some prior ∧ prior.state = .creatingObject

theorem since_nil {event : Entry → Prop} {key : String} : ¬Since event [] key := by
  rintro ⟨before, logged, after, split, _⟩
  exact absurd split.symm (List.append_ne_nil_of_right_ne_nil _ (List.cons_ne_nil _ _))

theorem Orderly.start : Orderly ⟨.empty, [], []⟩ where
  current := fun _ _ _ holds => nomatch holds
  begun := fun _ _ member => (List.not_mem_nil member).elim
  aware := fun _ _ _ _ _ member => (List.not_mem_nil member).elim
  reconciled := fun _ _ holds => nomatch holds
  accounted := fun _ => .inr fun unknown => absurd unknown since_nil
  inspected := fun _ _ _ _ _ holds => nomatch holds
  creating := fun _ ⟨_, _, split⟩ => absurd split.symm (List.append_ne_nil_of_right_ne_nil _ (List.cons_ne_nil _ _))

section
variable [ByteDigests] {known : PublicationRequest → Prop} {s : PublicationState} {i j : Nat}
  {request : PublicationRequest} {entry : Entry} {after : PublicationStore} {prior stored current : PublicationAttemptRecord}

namespace Orderly

theorem current_write (ordered : Orderly s) (acts : Acts known orderly s i request entry after) {next : PublicationAttemptRecord}
    (written : after = s.store.write next) (key : next.idempotencyKey.text = request.recordKey)
    (grants : ∀ record, heldAfter (held (s.own i)) entry = some record → record = next)
    (alone : ∀ j prior, i ≠ j → j ∉ s.dead → held (s.own j) = some prior → prior.state = .creatingObject →
      s.store.records.get request.recordKey ≠ some prior) :
    ∀ j prior, j ∉ s.dead → held ((s.next ⟨i, request, entry⟩ after).own j) = some prior → prior.state = .creatingObject →
      (s.next ⟨i, request, entry⟩ after).store.records.get prior.idempotencyKey.text = some prior := by
  subst written
  intro j prior alive holds creating
  by_cases mine : i = j
  · subst mine
    rw [PublicationState.held_next_own] at holds
    rw [grants prior holds]
    exact PublicationStore.write_self
  · rw [PublicationState.held_next_other mine] at holds
    have found := ordered.current j prior alive holds creating
    by_cases same : prior.idempotencyKey.text = next.idempotencyKey.text
    · rw [same, key] at found
      exact absurd found (alone j prior mine alive holds creating)
    · exact (PublicationStore.write_ne same).trans found

theorem current_next (ordered : Orderly s) (tokens : Tokens s) (acts : Acts known orderly s i request entry after) :
    ∀ j prior, j ∉ s.dead → held ((s.next ⟨i, request, entry⟩ after).own j) = some prior → prior.state = .creatingObject →
      (s.next ⟨i, request, entry⟩ after).store.records.get prior.idempotencyKey.text = some prior := by
  have worked := acts.worked
  cases worked with
  | unchanged same _ ungranted =>
    intro j prior alive holds creating
    show after.records.get _ = _
    rw [same]
    by_cases mine : i = j
    · subst mine
      rw [PublicationState.held_next_own] at holds
      exact ordered.current i prior alive (heldAfter_ungranted ungranted holds) creating
    · rw [PublicationState.held_next_other mine] at holds
      exact ordered.current j prior alive holds creating
  | created makes absent =>
    refine ordered.current_write acts rfl makes.2.idempotencyKey (fun record holds => ?_) (fun _ _ _ _ _ _ found => ?_)
    · obtain ⟨_, member, grants⟩ := held_granted (show held (s.own i) = some record from holds)
      obtain ⟨_, _, only, _⟩ := acts.guarded.works id
      obtain ⟨_, same⟩ := only _ member
      rw [same] at grants
      exact grants.elim
    · cases absent.symm.trans found
  | leased _ found =>
    have key := (acts.kept.stored _ _ found).1
    refine ordered.current_write acts rfl key (fun record holds => (Option.some.inj holds).symm)
      (fun j prior _ alive holds creating under => ?_)
    cases found.symm.trans under
    refine alive (acts.permitted.1 _ rfl creating _ ?_ j holds)
    exact (congrArg _ key).trans found
  | saved _ found holds owner _ _ _ advances =>
    have key := (PublicationStore.identity_key advances.identity)
    refine ordered.current_write acts rfl (key ▸ (acts.kept.stored _ _ found).1) (fun record holds => (Option.some.inj holds).symm)
      (fun j prior mine _ also _ under => ?_)
    cases found.symm.trans under
    exact mine (tokens.same holds also)
  | released found owner token =>
    refine ordered.current_write acts rfl (acts.kept.stored _ _ found).1 (fun record holds => nomatch holds)
      (fun j prior mine _ also _ under => ?_)
    cases found.symm.trans under
    obtain ⟨other, owned, member⟩ := tokens.held j _ also
    cases owner.symm.trans owned
    exact mine (tokens.apart i j _ token member)

theorem begun_next (ordered : Orderly s) (acts : Acts known orderly s i request entry after) :
    ∀ j, ∀ found ∈ (s.next ⟨i, request, entry⟩ after).own j, Reconciled found →
      ∃ granted ∈ (s.next ⟨i, request, entry⟩ after).own j, ∃ record, Grants record granted := by
  intro j found member reconciled
  have later : (∃ granted ∈ s.own j, ∃ record, Grants record granted) →
      ∃ granted ∈ (s.next ⟨i, request, entry⟩ after).own j, ∃ record, Grants record granted :=
    Exists.imp fun _ granted => ⟨PublicationState.mem_own_next.mpr (.inl granted.1), granted.2⟩
  rcases PublicationState.mem_own_next.mp member with old | ⟨rfl, rfl⟩
  · exact later (ordered.begun j found old reconciled)
  · refine later ?_
    unfold Reconciled at reconciled
    split at reconciled
    · obtain ⟨_, _, prior, holds⟩ := acts.guarded.works id
      obtain ⟨granted, member, grants⟩ := held_granted holds
      exact ⟨granted, member, prior, grants⟩
    · exact reconciled.elim

theorem aware_next (ordered : Orderly s) (acts : Acts known orderly s i request entry after) :
    ∀ j prior, Leased prior ((s.next ⟨i, request, entry⟩ after).own j) → UnknownCreate prior →
      ∀ found ∈ (s.next ⟨i, request, entry⟩ after).own j, ¬ReadAs RetryableFailure found := by
  rintro j prior ⟨attemptId, leaseToken, now, durationMs, leased⟩ unknown found member
  rcases PublicationState.mem_own_next.mp leased with old | ⟨rfl, rfl⟩
  · rcases PublicationState.mem_own_next.mp member with also | ⟨rfl, rfl⟩
    · exact ordered.aware j prior ⟨_, _, _, _, old⟩ unknown found also
    · rintro ⟨candidate, existing, created, rfl, _⟩
      obtain ⟨_, _, only, _⟩ := acts.guarded.works id
      obtain ⟨_, same⟩ := only _ old
      cases same
  · rcases PublicationState.mem_own_next.mp member with also | ⟨_, rfl⟩
    · exact acts.permitted.2.2 prior rfl unknown found also
    · rintro ⟨_, _, _, same, _⟩
      cases same

omit [ByteDigests] in
theorem ungranted_known {entry : Entry} (ungranted : ∀ record, ¬Grants record entry) : ¬SavedUnknown entry := by
  unfold SavedUnknown
  split
  · exact absurd rfl (ungranted _)
  · exact id

theorem reconciled_next (ordered : Orderly s) (acts : Acts known orderly s i request entry after) :
    ∀ j prior, held ((s.next ⟨i, request, entry⟩ after).own j) = some prior →
      Leased prior ((s.next ⟨i, request, entry⟩ after).own j) → after.records.get prior.idempotencyKey.text = some prior →
      (∃ found ∈ (s.next ⟨i, request, entry⟩ after).own j, Reconciled found) →
      Accounted (s.log ++ [⟨i, request, entry⟩]) prior.idempotencyKey.text := by
  rintro j prior holds ⟨attemptId, leaseToken, now, durationMs, leased⟩ still ⟨found, member, reconciled⟩
  rcases PublicationState.mem_own_next.mp leased with old | ⟨rfl, rfl⟩
  · obtain ⟨before, ungranted⟩ := acts.left old rfl still
    have quiet : ¬(request.recordKey = prior.idempotencyKey.text ∧ SavedUnknown entry) :=
      fun own => ungranted_known (ungranted own.1) own.2
    by_cases mine : i = j
    · subst mine
      have key : prior.idempotencyKey.text = request.recordKey := (acts.kept.stored_of_carried acts.mine old rfl).1
      rcases PublicationState.mem_own_next.mp member with also | ⟨_, rfl⟩
      · rw [PublicationState.held_next_own] at holds
        have held := heldAfter_ungranted (ungranted key.symm) holds
        exact (ordered.reconciled i prior held ⟨_, _, _, _, old⟩ before ⟨found, also, reconciled⟩).next quiet
      · rw [key]
        exact accounted_reconciled reconciled
    · rw [PublicationState.held_next_other mine] at holds
      rcases PublicationState.mem_own_next.mp member with also | ⟨same, _⟩
      · exact (ordered.reconciled j prior holds ⟨_, _, _, _, old⟩ before ⟨found, also, reconciled⟩).next quiet
      · exact absurd same mine
  · rcases PublicationState.mem_own_next.mp member with also | ⟨_, rfl⟩
    · obtain ⟨granted, granter, record, grants⟩ := ordered.begun i found also reconciled
      obtain ⟨_, _, _, _, ungranted⟩ := acts.guarded.works id
      exact absurd grants (ungranted granted granter record)
    · exact reconciled.elim

/-- A create that is unknown stays so, or a call that has reconciled it goes on with it. -/
theorem unknown_next (ordered : Orderly s) (acts : Acts known orderly s i request entry after) {key : String}
    (found : s.store.records.get key = some stored) (unknown : UnknownCreate stored) :
    (∃ stored, after.records.get key = some stored ∧ UnknownCreate stored) ∨
      Accounted (s.log ++ [⟨i, request, entry⟩]) key := by
  have writes : ∀ next, after = s.store.write next → (key = next.idempotencyKey.text → UnknownCreate next) →
      ∃ stored, after.records.get key = some stored ∧ UnknownCreate stored := by
    rintro next rfl same
    by_cases mine : key = next.idempotencyKey.text
    · exact ⟨next, mine ▸ PublicationStore.write_self, same mine⟩
    · exact ⟨stored, (PublicationStore.write_ne mine).trans found, unknown⟩
  have worked := acts.worked
  cases worked with
  | unchanged same => exact .inl ⟨stored, same ▸ found, unknown⟩
  | created makes absent =>
    refine .inl (writes _ rfl fun mine => ?_)
    rw [mine, makes.2.idempotencyKey] at found
    cases found.symm.trans absent
  | leased _ under =>
    refine .inl (writes _ rfl fun mine => ?_)
    have same : key = request.recordKey := mine.trans (acts.kept.stored _ _ under).1
    cases (same ▸ found).symm.trans under
    exact unknown
  | @saved _ record _ _ prior _ _ under holds _ _ _ _ advances =>
    have place := (acts.kept.stored _ _ under).1
    by_cases mine : key = record.idempotencyKey.text
    · have same : key = prior.idempotencyKey.text := by rw [mine, PublicationStore.identity_key advances.identity]
      rw [same, place] at found
      cases found.symm.trans under
      have retrying := advances.recreated unknown.1
      obtain ⟨leased, ⟨read, member, retryable⟩ | ⟨_, reconciled⟩⟩ := advances.retried retrying
      · exact absurd retryable (ordered.aware i stored leased unknown read member)
      · have accounted := ordered.reconciled i stored holds leased (place ▸ under) reconciled
        rw [← same] at accounted
        refine .inr (accounted.next fun own => ?_)
        have failed : record.state = .createFailed := own.2.1
        cases retrying.symm.trans failed
    · exact .inl (writes _ rfl fun same => absurd same mine)
  | released under =>
    refine .inl (writes _ rfl fun mine => ?_)
    have same : key = request.recordKey := mine.trans (acts.kept.stored _ _ under).1
    cases (same ▸ found).symm.trans under
    exact unknown

theorem saved_unknown (acts : Acts known orderly s i request entry after) (unknown : SavedUnknown entry) :
    ∃ stored prior, after.records.get request.recordKey = some stored ∧ UnknownCreate stored ∧
      s.store.records.get request.recordKey = some prior ∧ held (s.own i) = some prior := by
  have worked := acts.worked
  cases worked with
  | unchanged _ _ ungranted => exact absurd unknown (ungranted_known ungranted)
  | created => exact unknown.elim
  | leased => exact unknown.elim
  | @saved _ record _ _ prior _ _ under holds _ _ _ _ advances =>
    have key : record.idempotencyKey.text = request.recordKey := by
      rw [PublicationStore.identity_key advances.identity, (acts.kept.stored _ _ under).1]
    exact ⟨record, prior, key ▸ PublicationStore.write_self, unknown, under, holds⟩
  | released => exact unknown.elim

theorem accounted_next (ordered : Orderly s) (acts : Acts known orderly s i request entry after) (key : String) :
    (∃ stored, after.records.get key = some stored ∧ UnknownCreate stored) ∨
      Accounted (s.log ++ [⟨i, request, entry⟩]) key := by
  rcases ordered.accounted key with ⟨stored, found, unknown⟩ | accounted
  · exact ordered.unknown_next acts found unknown
  · by_cases saves : request.recordKey = key ∧ SavedUnknown entry
    · obtain ⟨rfl, unknown⟩ := saves
      obtain ⟨stored, _, found, is, _⟩ := saved_unknown acts unknown
      exact .inl ⟨stored, found, is⟩
    · exact .inr (accounted.next saves)

theorem inspected_next (ordered : Orderly s) (tokens : Tokens s) (acts : Acts known orderly s i request entry after) :
    ∀ j prior before found, j ∉ s.dead → held ((s.next ⟨i, request, entry⟩ after).own j) = some prior →
      prior.state = .creatingObject → (s.next ⟨i, request, entry⟩ after).own j = before ++ [found] → InspectedMissing found →
      ¬Since SavedUnknown (s.log ++ [⟨i, request, entry⟩]) prior.idempotencyKey.text := by
  intro j prior before found alive holds creating split missing unknown
  by_cases mine : i = j
  · subst mine
    rw [PublicationState.own_next] at split
    obtain ⟨_, only⟩ := List.append_inj' split rfl
    cases only
    obtain ⟨input, inspected, rfl⟩ := missing.entry
    obtain ⟨_, _, other, held, state⟩ := acts.guarded.works id
    have same : Publication.held (s.own i) = some prior := PublicationState.held_next_own.symm.trans holds
    cases held.symm.trans same
    have key := acts.held_key held
    have under := ordered.current i prior alive held state
    rcases since_next.mp unknown with ⟨_, now⟩ | ⟨before, _⟩
    · exact now
    · rcases ordered.accounted prior.idempotencyKey.text with ⟨stored, found, is⟩ | accounted
      · cases found.symm.trans under
        cases creating.symm.trans is.1
      · have present := accounted before
        rw [key] at present
        exact acts.permitted.2.1 missing present
  · rw [PublicationState.held_next_other mine] at holds
    rw [PublicationState.own_next_other mine] at split
    rcases since_next.mp unknown with ⟨own, now⟩ | ⟨before, _⟩
    · obtain ⟨_, other, _, _, under, held⟩ := saved_unknown acts now
      have mine' := ordered.current j prior alive holds creating
      have own' : request.recordKey = prior.idempotencyKey.text := own
      rw [← own'] at mine'
      cases under.symm.trans mine'
      exact mine (tokens.same held holds)
    · exact ordered.inspected j prior _ found alive holds creating split missing before

theorem creating_next (ordered : Orderly s) (acts : Acts known orderly s i request entry after) :
    ∀ j, Creating ((s.next ⟨i, request, entry⟩ after).own j) → ∃ prior,
      held ((s.next ⟨i, request, entry⟩ after).own j) = some prior ∧ prior.state = .creatingObject := by
  rintro j ⟨before, input, split⟩
  by_cases mine : i = j
  · subst mine
    rw [PublicationState.own_next] at split
    obtain ⟨_, only⟩ := List.append_inj' split rfl
    obtain rfl : entry = ⟨.createObject input, ()⟩ := List.singleton_inj.mp only
    obtain ⟨_, _, ⟨prior, holds, state⟩, _⟩ := acts.guarded.works id
    refine ⟨prior, ?_, state⟩
    rw [PublicationState.held_next_own, holds]
    rfl
  · rw [PublicationState.own_next_other mine] at split
    rw [PublicationState.held_next_other mine]
    exact ordered.creating j ⟨before, input, split⟩

theorem step (ordered : Orderly s) (tokens : Tokens s) (acts : Acts known orderly s i request entry after) :
    Orderly (s.next ⟨i, request, entry⟩ after) where
  current := ordered.current_next tokens acts
  begun := ordered.begun_next acts
  aware := ordered.aware_next acts
  reconciled := ordered.reconciled_next acts
  accounted := ordered.accounted_next acts
  inspected := ordered.inspected_next tokens acts
  creating := ordered.creating_next acts

omit [ByteDigests] in
theorem dies (ordered : Orderly s) (i : Nat) : Orderly { s with dead := i :: s.dead } where
  current := fun j prior alive => ordered.current j prior fun dead => alive (List.mem_cons_of_mem _ dead)
  begun := ordered.begun
  aware := ordered.aware
  reconciled := ordered.reconciled
  accounted := ordered.accounted
  inspected := fun j prior before entry alive =>
    ordered.inspected j prior before entry fun dead => alive (List.mem_cons_of_mem _ dead)
  creating := ordered.creating

end Orderly

namespace Publishers

variable [UriParser] {pool : Publishers}

theorem Reach.ordered (reach : pool.Reach known orderly) (apart : AttemptsApart known) : Orderly pool.state :=
  reach.holds apart Orderly.start (fun _ i ordered => ordered.dies i)
    fun _ _ _ _ _ previous acts ordered => ordered.step (previous.tokens apart) acts

theorem Reach.held_key (reach : pool.Reach known permits) (apart : AttemptsApart known) {i : Nat} {thread : Thread _ _ _ _}
    (found : pool.threads[i]? = some thread) (holds : held (pool.state.own i) = some prior) :
    prior.idempotencyKey.text = thread.request.recordKey := by
  obtain ⟨_, member, grants⟩ := held_granted holds
  exact ((reach.kept apart).stored_of_carried (reach.mine found) member grants.carries).1

end Publishers

end

def reconciling : Entry → Bool
  | ⟨.reconcileCreate _, _⟩ => true
  | _ => false

def unreconciled : Condition := fun s _ _ entry => (∀ logged ∈ s.log, reconciling logged.entry = false) ∧
  ∀ leased ∈ acquired entry, leased.state ≠ .creatingObject ∧ leased.state ≠ .createFailed

instance (s : PublicationState) (i : Nat) (request : PublicationRequest) (entry : Entry) :
    Decidable (unreconciled s i request entry) := inferInstanceAs (Decidable (_ ∧ _))

theorem unreconciled_orderly (s : PublicationState) (i : Nat) (request : PublicationRequest) (entry : Entry)
    (checked : unreconciled s i request entry) : orderly s i request entry := by
  refine ⟨fun leased acquires creating => absurd creating (checked.2 leased acquires).1, fun _ present => ?_,
    fun leased acquires unknown => absurd unknown.1 (checked.2 leased acquires).2⟩
  obtain ⟨before, logged, after, split, _, told, _⟩ := present
  have quiet := checked.1 logged (split ▸ List.mem_append_right _ List.mem_cons_self)
  unfold Present at told
  split at told
  · rename_i same
    rw [same] at quiet
    cases quiet
  · exact told

def creates (pool : Publishers) (i : Nat) : Option ObjectInput :=
  match pool.threads[i]? with
  | some ⟨_, .call (.createObject input) _⟩ => some input
  | _ => none

theorem creates_thread {pool : Publishers} {i : Nat} {input : ObjectInput} (starts : creates pool i = some input) :
    ∃ request next, pool.threads[i]? = some ⟨request, .call (.createObject input) next⟩ := by
  unfold creates at starts
  split at starts
  · rename_i found
    cases starts
    exact ⟨_, _, found⟩
  · cases starts

def createsLast (own : Calls) : Bool :=
  match own.getLast? with
  | some ⟨.createObject _, _⟩ => true
  | _ => false

theorem createsLast_creating {own : Calls} (last : createsLast own = true) : Creating own := by
  unfold createsLast at last
  split at last
  · rename_i found
    obtain ⟨before, rfl⟩ := List.getLast?_eq_some_iff.mp found
    exact ⟨before, _, rfl⟩
  · cases last

namespace Publishers

attribute [local instance] plainUris constantDigests

def createRun : Option Publishers :=
  played unreconciled (fun _ => sampleAnswers sampleDigest.canonicalBytes)
    (.start (sampleRequest .greenfield) :: List.replicate 15 (.call 0))

theorem greenfield_request {pool : Publishers} {permits : Condition}
    (reach : pool.Reach (· = sampleRequest .greenfield) permits) {i : Nat} {request : PublicationRequest}
    {program : Program PublisherCall PublisherCall.Answer (Except PublicationFailure PublicationAttemptRecord)}
    (found : pool.threads[i]? = some ⟨request, program⟩) : request = sampleRequest .greenfield :=
  System.Reach.requests reach (fun _ _ allowed => allowed.1) found

/-- The answers to two workers, of which the second asks for the time when the lease of the first has expired. -/
def lateAnswers (i : Nat) : (op : PublisherCall) → op.Answer
  | .clock => if i = 0 then (0 : Int) else (100000 : Int)
  | op => workerAnswers sampleDigest.canonicalBytes i op

def doubleRun : Option Publishers :=
  played unrestricted lateAnswers
    ([.start (sampleRequest .greenfield), .start (sampleRequest .greenfield)] ++ List.replicate 16 (.call 0) ++
      List.replicate 6 (.call 1))

end Publishers

end Bnbera.Publication
