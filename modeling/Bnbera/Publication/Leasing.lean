import Bnbera.Publication.Running

namespace Bnbera.Publication

open Interleaving

variable {history : Calls}

/-- How a part of `publishProvider` ends: with a final record, where that was to be expected. What it
returns is held. -/
structure Proceeds {α : Type} (expected : Prop) (carried : α → PublicationAttemptRecord)
    (result : Except PublicationFailure α) (history : Calls) : Prop where
  done : expected → AllAccepted history → NoneEscapes history →
    ∃ value, result = .ok value ∧ (carried value).state ∈ terminalStates
  returns : ∀ value, result = .ok value → held history = some (carried value)

theorem Proceeds.failed {α : Type} {expected : Prop} {carried : α → PublicationAttemptRecord} {error : PublicationFailure}
    (never : expected → AllAccepted history → ¬NoneEscapes history) : Proceeds expected carried (.error error) history :=
  ⟨fun expects accepted calm => absurd calm (never expects accepted), fun _ same => (nomatch same)⟩

theorem Recorded.terminal {record : PublicationAttemptRecord} (recorded : Recorded record) : record.state ∈ terminalStates := by
  rcases recorded with verified | failed
  · rw [verified]
    exact List.mem_cons_self
  · exact failed.1

theorem Settles.proceeds {expected : Prop} {result : Except PublicationFailure PublicationAttemptRecord}
    (settles : Settles expected result history) : Proceeds expected id result history := by
  refine ⟨fun expects accepted calm => ?_, settles.returns⟩
  obtain ⟨⟨record, same, recorded⟩, _⟩ := (settles.recorded accepted).mpr ⟨expects, calm⟩
  exact ⟨record, same, recorded.terminal⟩

theorem Proceeds.map {α β : Type} {expected : Prop} {carried : α → PublicationAttemptRecord}
    {other : β → PublicationAttemptRecord} {change : α → β} {result : Except PublicationFailure α}
    (proceeds : Proceeds expected carried result history) (same : ∀ value, other (change value) = carried value) :
    Proceeds expected other (result.map change) history := by
  cases result with
  | error error =>
    refine .failed fun expects accepted calm => ?_
    obtain ⟨_, ended, _⟩ := proceeds.done expects accepted calm
    cases ended
  | ok value =>
    refine ⟨fun expects accepted calm => ⟨_, rfl, ?_⟩, fun _ ended => ?_⟩
    · obtain ⟨found, ended, terminal⟩ := proceeds.done expects accepted calm
      cases ended
      rw [same]
      exact terminal
    · cases ended
      rw [same]
      exact proceeds.returns value rfl

theorem Proceeds.of {α : Type} {expected other : Prop} {carried : α → PublicationAttemptRecord}
    {result : Except PublicationFailure α} (proceeds : Proceeds expected carried result history)
    (implies : other → expected) : Proceeds other carried result history :=
  ⟨fun expects => proceeds.done (implies expects), proceeds.returns⟩

variable [ByteDigests] {publisher : EvidencePublisher} {digest : ArtifactDigest} {provider code : PublicationProvider}
  {existing initial record : PublicationAttemptRecord} {created : Bool}

theorem Transitioned.advances_retrying {updated : PublicationAttemptRecord} {patch : RecordPatch}
    (transitioned : Transitioned record .retrying patch updated) (permitted : Permitted record.state .retrying)
    (retries : Retries record history) (kept : patch.locator = none ∨ patch.locator = some none) :
    Advances publisher digest code history record updated := by
  have state := transitioned.state
  exact {
    identity := transitioned.identity
    revision := transitioned.revision
    leaseOwner := transitioned.leaseOwner
    leaseExpiresAt := transitioned.leaseExpiresAt
    permitted := by rwa [state]
    unverified := permitted.unverified nofun
    recreated := fun _ => state
    created := fun created => nomatch state.symm.trans created
    retried := fun _ => retries
    locator := fun locator member => by
      rcases kept with same | cleared
      · exact .inr (transitioned.locator_kept same member)
      · rw [transitioned.locator, cleared] at member
        cases member
    located := fun located => by rw [state] at located; exact located.elim nofun nofun
    sealed := fun reading => nomatch state.symm.trans reading
    verified := fun verified => nomatch state.symm.trans verified }

/-- Where the `try` of `publishProvider` can go on from, given what was read and what was leased. -/
def Continues (publisher : EvidencePublisher) (digest : ArtifactDigest) (provider : PublicationProvider)
    (existing : PublicationAttemptRecord) (created : Bool) (initial : PublicationAttemptRecord) : Prop :=
  if created = false ∧ existing.state ∈ terminalStates then
    initial.state ∈ terminalStates ∧ Permitted initial.state .retrying
  else initial.state = .retrying ∧ created = false ∨ publisher.Startable digest provider initial

section
variable [UriParser]

namespace EvidencePublisher

/-- An attempt that is taken up again starts over from `pending`. -/
theorem startOver_keeps {patch : RecordPatch} (holds : Holds history initial) (clean : Clean history)
    (run : CodeFor provider code history) (retries : Retries initial history)
    (kept : patch.locator = none ∨ patch.locator = some none)
    (stored : patch.providerReference = none ∨ patch.providerReference = some none) :
    Keeps (Guard publisher digest provider) (Proceeds (Permitted initial.state .retrying) id)
      (publisher.startOver initial patch digest code).run history := by
  unfold startOver
  refine .except_bind (transition_keeps holds (fun updated permitted transitioned =>
    ⟨code, run, transitioned.advances_retrying permitted retries kept⟩) ⟨?_, ?_, ?_⟩)
  · exact fun forbidden => .failed fun permitted => absurd permitted forbidden
  · intro _ _ _ _ reason
    refine .failed fun _ accepted => absurd accepted (reason.resolve_right ?_)
    rcases stored with same | same <;> rw [RecordPatch.reference, same] <;> rintro ⟨⟩
  · intro permitted retrying after transitioned quietly held
    have again := run.mono fun _ member => quietly.mem member
    refine .except_bind (transition_keeps held (fun updated allowed moved =>
      ⟨code, again, moved.advances_plain allowed (by decide) rfl⟩) ⟨?_, ?_, ?_⟩)
    · rw [transitioned.state]
      exact fun forbidden => absurd (by decide) forbidden
    · exact fun _ _ _ _ reason => .failed fun _ accepted => absurd accepted (reason.resolve_right (by rintro ⟨⟩))
    · intro _ pending final moved later pendingHeld
      refine (publisher.runProvider_keeps pendingHeld (clean.quietly (quietly.trans later))
        (again.mono fun _ member => later.mem member)).post fun _ _ settles => settles.proceeds.of fun _ => ?_
      exact .inl moved.state

theorem reconcileUnknownCreate_keeps (holds : Holds history initial) (clean : Clean history)
    (leased : Leased initial history) (unknown : ∃ entry ∈ history, ReadAs UnknownCreate entry) :
    Keeps (Guard publisher digest provider)
      (Proceeds (initial.state ∈ terminalStates ∧ Permitted initial.state .retrying) (·.getD initial))
      (publisher.reconcileUnknownCreate initial digest).run history := by
  have gives : ∀ {after}, Holds after initial →
      Proceeds (initial.state ∈ terminalStates ∧ Permitted initial.state .retrying)
        (fun reconciled => reconciled.getD initial) (.ok none) after := by
    intro after held
    refine ⟨fun expects _ _ => ⟨none, rfl, expects.1⟩, fun _ same => ?_⟩
    cases same
    exact held.held
  unfold reconcileUnknownCreate
  split
  · exact keeps_pure (gives holds)
  · refine .ask_bind ⟨initial, holds.held⟩ fun answer => ?_
    have held := holds.next ⟨.reconcileCreate (objectInput initial digest), answer⟩ rfl
    have quietly : Quietly history (history ++ [⟨.reconcileCreate (objectInput initial digest), answer⟩]) :=
      .one ⟨trivial, id⟩
    cases answer with
    | error error => exact keeps_pure (gives held)
    | ok reconciliation =>
      dsimp only
      split
      · exact keeps_pure (gives held)
      · rename_i known
        split
        · exact keeps_pure (gives held)
        · obtain ⟨entry, member, read⟩ := unknown
          have still : ∃ entry ∈ history ++ [⟨.reconcileCreate (objectInput initial digest), .ok reconciliation⟩],
              ReadAs UnknownCreate entry := ⟨entry, quietly.mem member, read⟩
          obtain ⟨attemptId, leaseToken, now, durationMs, acquired⟩ := leased
          have retries : Retries initial (history ++ [⟨.reconcileCreate (objectInput initial digest), .ok reconciliation⟩]) :=
            ⟨⟨attemptId, leaseToken, now, durationMs, quietly.mem acquired⟩, .inr ⟨still, _, List.mem_concat_self, known⟩⟩
          refine .except_map ((startOver_keeps held (clean.quietly quietly) (.inr ⟨rfl, still⟩) retries (.inr rfl)
            (.inr rfl)).post ?_)
          exact fun _ _ proceeds => (proceeds.of fun expects => expects.2).map fun _ => rfl

/-- The `try` of `publishProvider`: it returns a record that is held, or goes on with one. -/
theorem attempt_keeps (holds : Holds history initial) (clean : Clean history) (leased : Leased initial history)
    {candidate : PublicationAttemptRecord} (read : ⟨.createOrGet candidate, (existing, created)⟩ ∈ history)
    (unsettled : ¬Settled existing created) :
    Keeps (Guard publisher digest provider)
      (Proceeds (Continues publisher digest provider existing created initial) Attempted.carried)
      (publisher.attempt existing created digest provider initial).run history := by
  have reads : ∀ {property : PublicationAttemptRecord → Prop}, property existing → ∃ entry ∈ history, ReadAs property entry :=
    fun holds => ⟨_, read, candidate, existing, created, rfl, holds⟩
  unfold attempt Continues
  by_cases ended : created = false ∧ existing.state ∈ terminalStates
  · rw [if_pos ended, if_pos ended]
    split
    · rename_i unknown
      refine .except_bind ((reconcileUnknownCreate_keeps holds clean leased (reads unknown)).post ?_)
      rintro (error | reconciled) after proceeds
      · refine .failed fun expects accepted calm => ?_
        obtain ⟨_, ended, _⟩ := proceeds.done expects accepted calm
        cases ended
      · refine keeps_pure ⟨fun expects accepted calm => ⟨_, rfl, ?_⟩, fun _ same => ?_⟩
        · obtain ⟨_, ended, terminal⟩ := proceeds.done expects accepted calm
          cases ended
          exact terminal
        · cases same
          exact proceeds.returns reconciled rfl
    · rename_i known
      split
      · rename_i final
        exact absurd (.inr ⟨ended.1, final, ended.2, known⟩) unsettled
      · rename_i retryable
        have retries : Retries initial history :=
          ⟨leased, .inl (reads ⟨Bool.of_not_eq_false retryable, ended.2, known⟩)⟩
        refine .except_map ((startOver_keeps holds clean (.inl rfl) retries (.inl rfl) (.inl rfl)).post ?_)
        exact fun _ _ proceeds => (proceeds.of fun expects => expects.2).map fun _ => rfl
  · rw [if_neg ended, if_neg ended]
    split
    · rename_i retrying
      refine .except_bind (transition_keeps holds (fun updated allowed moved =>
        ⟨provider, .inl rfl, moved.advances_plain allowed (by decide) rfl⟩) ⟨?_, ?_, ?_⟩)
      · rw [retrying.2]
        exact fun forbidden => absurd (by decide) forbidden
      · exact fun _ _ _ _ reason => .failed fun _ accepted => absurd accepted (reason.resolve_right nofun)
      · intro _ pending after moved quietly held
        refine .except_map ((publisher.runProvider_keeps held (clean.quietly quietly) (.inl rfl)).post
          fun _ _ settles => (settles.proceeds.of fun _ => ?_).map fun _ => rfl)
        exact .inl moved.state
    · rename_i other
      refine .except_map ((publisher.runProvider_keeps holds clean (.inl rfl)).post
        fun _ _ settles => (settles.proceeds.of fun expects => ?_).map fun _ => rfl)
      exact expects.resolve_left fun retrying => other ⟨retrying.2, retrying.1⟩

end EvidencePublisher

end

end Bnbera.Publication
