import Bnbera.Publication.Contracts

namespace Bnbera.Publication

open Interleaving

section

variable {α β : Type} {guard : Calls → PublisherCall → Prop} {history : Calls}

theorem keeps_pure {post : Except PublicationFailure α → Calls → Prop} {value : α} (holds : post (.ok value) history) :
    Keeps guard post (pure value : Work α).run history := .done holds

theorem keeps_throw {post : Except PublicationFailure α → Calls → Prop} {error : PublicationFailure}
    (holds : post (.error error) history) : Keeps guard post (throw error : Work α).run history := .done holds

theorem keeps_lift_bind {post : Except PublicationFailure β → Calls → Prop} {checked : Except PublicationFailure α}
    {after : α → Work β} (failed : ∀ error, checked = .error error → post (.error error) history)
    (passed : ∀ value, checked = .ok value → Keeps guard post (after value).run history) :
    Keeps guard post ((liftM checked : Work α) >>= after).run history := by
  cases checked with
  | error error => exact .done (failed error rfl)
  | ok value => exact passed value rfl

theorem keeps_clockIf {post : Except PublicationFailure (Option Int) → Calls → Prop} {asked : Prop} [Decidable asked]
    {otherwise : Option Int} (free : ∀ history, guard history .clock)
    (holds : ∀ time after, Quietly history after → held after = held history → post (.ok time) after) :
    Keeps guard post (Work.clockIf asked otherwise).run history := by
  unfold Work.clockIf
  split
  · refine .except_map (.call (free history) fun time => ?_)
    exact .done (holds _ _ (.one (.clock _)) (held_next _ _))
  · exact keeps_pure (holds _ _ .refl rfl)

structure Holds (history : Calls) (record : PublicationAttemptRecord) : Prop where
  held : held history = some record
  leased : AllAccepted history → record.leaseOwner ≠ none

theorem Holds.next {record : PublicationAttemptRecord} (holds : Holds history record) (entry : Entry)
    (same : heldAfter (some record) entry = some record) : Holds (history ++ [entry]) record := by
  refine ⟨?_, fun accepted => holds.leased fun old member => accepted old (List.mem_append_left _ member)⟩
  rw [held_next, holds.held]
  exact same

/-- What a `catch` finds: the worker holds the record still. -/
structure Caught (history : Calls) (record : PublicationAttemptRecord) (after : Calls) : Prop where
  quietly : Quietly history after
  holds : Holds after record

theorem Caught.after {record : PublicationAttemptRecord} {middle after : Calls} (caught : Caught middle record after)
    (quietly : Quietly history middle) : Caught history record after :=
  ⟨quietly.trans caught.quietly, caught.holds⟩

def Plain (state : PublicationAttemptState) : Prop :=
  state ∉ [PublicationAttemptState.verified, .createFailed, .retrying, .awaitingSeal, .readingBack]

instance (state : PublicationAttemptState) : Decidable (Plain state) := inferInstanceAs (Decidable (¬_))

theorem Permitted.unverified {source target : PublicationAttemptState} (permitted : Permitted source target)
    (other : target ≠ .verified) : source ≠ .verified := by
  rintro rfl
  rcases permitted with same | listed
  · exact other same.symm
  · exact List.not_mem_nil listed

theorem Permitted.uncreated {source target : PublicationAttemptState} (permitted : Permitted source target)
    (other : target ≠ .createFailed) (created : source = .createFailed) : target = .retrying := by
  subst created
  rcases permitted with same | listed
  · exact absurd same.symm other
  · exact List.mem_singleton.mp listed

theorem Transitioned.locator_kept {record updated : PublicationAttemptRecord} {nextState : PublicationAttemptState}
    {patch : RecordPatch} (transitioned : Transitioned record nextState patch updated)
    (kept : patch.locator = none)
    {locator : EvidenceLocator} (member : locator ∈ updated.locator) :
    ∃ old ∈ record.locator, locator = { old with verifiedAt := locator.verifiedAt } := by
  rw [transitioned.locator, kept] at member
  exact ⟨locator, member, rfl⟩

section
variable [ByteDigests] {publisher : EvidencePublisher} {digest : ArtifactDigest} {provider : PublicationProvider}

structure TransitionEnds (history : Calls) (record : PublicationAttemptRecord) (nextState : PublicationAttemptState)
    (patch : RecordPatch) (post : Except PublicationFailure PublicationAttemptRecord → Calls → Prop) : Prop where
  forbidden : ¬Permitted record.state nextState →
    post (.error (illegalTransition record.state nextState)) (history ++ [⟨.requestMove record.state nextState, ()⟩])
  failed : Permitted record.state nextState → ∀ error after, Caught history record after →
    ¬AllAccepted after ∨ patch.reference record = .error error → post (.error error) after
  moved : Permitted record.state nextState → ∀ updated after, Transitioned record nextState patch updated →
    Quietly history after → Holds after updated → post (.ok updated) after

theorem transition_keeps {record : PublicationAttemptRecord} {nextState : PublicationAttemptState} {patch : RecordPatch}
    {post : Except PublicationFailure PublicationAttemptRecord → Calls → Prop} (holds : Holds history record)
    (advances : ∀ updated, Permitted record.state nextState → Transitioned record nextState patch updated →
      ∃ code, CodeFor provider code history ∧ Advances publisher digest code history record updated)
    (ends : TransitionEnds history record nextState patch post) :
    Keeps (Guard publisher digest provider) post (transition record nextState patch).run history := by
  unfold transition
  refine .ask_bind trivial fun _ => ?_
  by_cases permitted : Permitted record.state nextState
  · rw [if_neg (not_not_intro permitted)]
    have asked : Quietly history (history ++ [⟨.requestMove record.state nextState, ()⟩]) := .one (.move permitted)
    have same := held_next history ⟨.requestMove record.state nextState, ()⟩
    cases leased : record.leaseOwner with
    | none =>
      have unleased : ¬AllAccepted (history ++ [⟨.requestMove record.state nextState, ()⟩]) :=
        fun accepted => holds.leased (asked.accepted accepted) leased
      exact keeps_throw (ends.failed permitted _ _ ⟨asked, holds.next _ rfl⟩ (.inl unleased))
    | some leaseToken =>
      dsimp only
      refine .except_bind (keeps_clockIf (fun _ => trivial) fun startedAt second quiet₁ held₁ => ?_)
      refine .except_bind (keeps_clockIf (fun _ => trivial) fun completedAt third quiet₂ held₂ => ?_)
      refine .ask_bind trivial fun updatedAt => ?_
      have quiet₃ := (asked.trans (quiet₁.trans quiet₂)).next (.clock updatedAt)
      have held₃ := (held_next third ⟨.clock, updatedAt⟩).trans (held₂.trans (held₁.trans same))
      generalize third ++ [⟨PublisherCall.clock, updatedAt⟩] = fourth at quiet₃ held₃ ⊢
      have mono : ∀ {after}, Quietly history after → ∀ entry ∈ history, entry ∈ after := fun quiet _ member => quiet.mem member
      have still : ∀ {after}, Quietly history after → held after = held history → Holds after record :=
        fun quiet same => ⟨same.trans holds.held, fun accepted => holds.leased (quiet.accepted accepted)⟩
      refine keeps_lift_bind (fun error failed =>
        ends.failed permitted error _ ⟨quiet₃, still quiet₃ held₃⟩ (.inr (RecordPatch.apply_eq_error failed)))
        fun updated applied => ?_
      have transitioned := RecordPatch.apply_eq_ok applied
      refine .ask_bind trivial fun now => ?_
      have quiet₄ := quiet₃.next (.clock now)
      have held₄ := (held_next fourth ⟨.clock, now⟩).trans held₃
      generalize fourth ++ [⟨PublisherCall.clock, now⟩] = fifth at quiet₄ held₄ ⊢
      obtain ⟨code, run, advanced⟩ := advances updated permitted transitioned
      refine .ask_bind ⟨record, code, held₄.trans holds.held, leased, rfl, run.mono (mono quiet₄), advanced.mono (mono quiet₄)⟩
        fun saved => ?_
      refine keeps_lift_bind (fun error refused => ?_) fun done saved => ?_
      · subst refused
        have unaccepted : ¬AllAccepted (fifth ++ [⟨.save updated record.revision leaseToken now, .error error⟩]) :=
          fun accepted => (nomatch accepted _ List.mem_concat_self)
        exact ends.failed permitted _ _ ⟨quiet₄.next (.save _), (still quiet₄ held₄).next _ rfl⟩ (.inl unaccepted)
      · subst saved
        refine keeps_pure (ends.moved permitted updated _ transitioned (quiet₄.next (.save _)) ⟨held_next _ _, fun _ => ?_⟩)
        rw [transitioned.leaseOwner, leased]
        exact Option.some_ne_none _
  · rw [if_pos permitted]
    exact keeps_throw (ends.forbidden permitted)

variable {record updated : PublicationAttemptRecord} {nextState : PublicationAttemptState} {patch : RecordPatch}
  {code : PublicationProvider}

theorem Transitioned.advances_plain (transitioned : Transitioned record nextState patch updated)
    (permitted : Permitted record.state nextState) (plain : Plain nextState) (kept : patch.locator = none) :
    Advances publisher digest code history record updated := by
  simp only [Plain, List.mem_cons, List.not_mem_nil, or_false, not_or] at plain
  obtain ⟨notVerified, notCreated, notRetrying, notAwaiting, notReading⟩ := plain
  have state := transitioned.state
  exact {
    identity := transitioned.identity
    revision := transitioned.revision
    leaseOwner := transitioned.leaseOwner
    leaseExpiresAt := transitioned.leaseExpiresAt
    permitted := by rwa [state]
    unverified := permitted.unverified notVerified
    recreated := fun created => state.trans (permitted.uncreated notCreated created)
    created := fun created => absurd (state.symm.trans created) notCreated
    retried := fun retrying => absurd (state.symm.trans retrying) notRetrying
    locator := fun _ member => .inr (transitioned.locator_kept kept member)
    located := fun located => absurd located
      (by rw [state]; exact fun either => either.elim notAwaiting notReading)
    sealed := fun reading => absurd (state.symm.trans reading) notReading
    verified := fun verified => absurd (state.symm.trans verified) notVerified }

def Fails (code : PublicationProvider) (record : PublicationAttemptRecord) (state : PublicationAttemptState) : Prop :=
  state ∈ terminalStates ∧ (Plain state ∨ state = .createFailed ∧ code = .greenfield ∧ record.state ≠ .createFailed)

theorem Transitioned.advances_fails {record updated : PublicationAttemptRecord} {nextState : PublicationAttemptState}
    {patch : RecordPatch} {code : PublicationProvider} (transitioned : Transitioned record nextState patch updated)
    (permitted : Permitted record.state nextState) (fails : Fails code record nextState) (kept : patch.locator = none) :
    Advances publisher digest code history record updated := by
  rcases fails.2 with plain | ⟨rfl, greenfield, other⟩
  · exact transitioned.advances_plain permitted plain kept
  · have state := transitioned.state
    exact {
      identity := transitioned.identity
      revision := transitioned.revision
      leaseOwner := transitioned.leaseOwner
      leaseExpiresAt := transitioned.leaseExpiresAt
      permitted := by rwa [state]
      unverified := permitted.unverified nofun
      recreated := fun created => absurd created other
      created := fun _ => greenfield
      retried := fun retrying => nomatch state.symm.trans retrying
      locator := fun _ member => .inr (transitioned.locator_kept kept member)
      located := fun located => by rw [state] at located; exact located.elim nofun nofun
      sealed := fun reading => nomatch state.symm.trans reading
      verified := fun verified => nomatch state.symm.trans verified }

/-- Content was stored: its locator is known, and a sealed object was seen before it is read back. -/
theorem Transitioned.advances_stored (transitioned : Transitioned record nextState patch updated)
    (permitted : Permitted record.state nextState) (stored : nextState = .awaitingSeal ∨ nextState = .readingBack)
    (locator : ∀ locator ∈ updated.locator, Locates publisher digest code locator ∨ ∃ old ∈ record.locator,
      locator = { old with verifiedAt := locator.verifiedAt })
    (located : updated.locator = none →
      record.locator = none ∧ (record.state = .awaitingSeal ∨ record.state = .readingBack))
    (sealed : nextState = .readingBack → code = .greenfield → ∃ entry ∈ history, Sealed entry) :
    Advances publisher digest code history record updated := by
  have state := transitioned.state
  have only : ∀ {other}, updated.state = other → nextState = other := fun same => state.symm.trans same
  have notVerified : nextState ≠ .verified := by rcases stored with rfl | rfl <;> exact nofun
  have notCreated : nextState ≠ .createFailed := by rcases stored with rfl | rfl <;> exact nofun
  have notRetrying : nextState ≠ .retrying := by rcases stored with rfl | rfl <;> exact nofun
  exact {
    identity := transitioned.identity
    revision := transitioned.revision
    leaseOwner := transitioned.leaseOwner
    leaseExpiresAt := transitioned.leaseExpiresAt
    permitted := by rwa [state]
    unverified := permitted.unverified notVerified
    recreated := fun created => state.trans (permitted.uncreated notCreated created)
    created := fun created => absurd (only created) notCreated
    retried := fun retrying => absurd (only retrying) notRetrying
    locator := locator
    located := fun _ => located
    sealed := fun reading => sealed (only reading)
    verified := fun verified => absurd (only verified) notVerified }

end

end

variable {history : Calls}

def Recorded (record : PublicationAttemptRecord) : Prop :=
  record.state = .verified ∨ record.state ∈ terminalStates ∧ record.lastErrorCode ≠ none

def Returns (result : Except PublicationFailure PublicationAttemptRecord) (history : Calls) : Prop :=
  ∀ record, result = .ok record → held history = some record

theorem returns_error {error : PublicationFailure} : Returns (.error error) history :=
  fun _ same => (nomatch same)

theorem Holds.returns {record : PublicationAttemptRecord} (holds : Holds history record) : Returns (.ok record) history :=
  fun _ same => holds.held.trans (congrArg some (Except.ok.inj same))

/-- The end of a part of a call: no forbidden move unless an answer escapes, and once every write was kept a
final record without one exactly where this was to be expected and no answer escaped. -/
structure Settles (expected : Prop) (result : Except PublicationFailure PublicationAttemptRecord) (history : Calls) :
    Prop where
  lawful : expected → NoneEscapes history → AllLawful history
  recorded : AllAccepted history →
    ((∃ record, result = .ok record ∧ Recorded record) ∧ AllLawful history ↔ expected ∧ NoneEscapes history)
  returns : Returns result history

structure Clean (history : Calls) : Prop where
  lawful : AllLawful history
  calm : NoneEscapes history

theorem Clean.nil : Clean [] :=
  ⟨fun _ member => (List.not_mem_nil member).elim, fun _ member => (List.not_mem_nil member).elim⟩

theorem Clean.quietly {before after : Calls} (clean : Clean before) (quietly : Quietly before after) : Clean after :=
  ⟨quietly.lawful.mpr clean.lawful, quietly.escapes.mpr clean.calm⟩

namespace Settles

variable {expected : Prop} {entry : Entry} {source target : PublicationAttemptState} {error : PublicationFailure}
  {result : Except PublicationFailure PublicationAttemptRecord}

theorem unaccepted (returns : Returns result history) (clean : Clean history)
    (refused : ¬AllAccepted history) : Settles expected result history :=
  ⟨fun _ _ => clean.lawful, fun accepted => absurd accepted refused, returns⟩

theorem of {other : Prop} (settles : Settles expected result history) (same : expected ↔ other) :
    Settles other result history := by
  rw [← propext same]
  exact settles

theorem thrown (member : entry ∈ history) (escapes : Escapes entry) :
    Settles expected (.error error) history := by
  refine ⟨fun _ calm => absurd escapes (calm entry member), fun _ => ⟨?_, ?_⟩, returns_error⟩
  · rintro ⟨⟨_, ended, _⟩, _⟩
    cases ended
  · exact fun ⟨_, calm⟩ => absurd escapes (calm entry member)

theorem escaped (member : entry ∈ history) (escapes : Escapes entry) (forbidden : ¬Permitted source target) :
    Settles expected (.error error) (history ++ [⟨.requestMove source target, ()⟩]) := by
  have seen : entry ∈ history ++ [⟨.requestMove source target, ()⟩] := List.mem_append_left _ member
  refine ⟨fun _ calm => absurd escapes (calm entry seen), fun _ => ⟨?_, ?_⟩, returns_error⟩
  · exact fun ⟨_, lawful⟩ => absurd (lawful _ List.mem_concat_self) forbidden
  · exact fun ⟨_, calm⟩ => absurd escapes (calm entry seen)

theorem unlawful (returns : Returns result history) (unexpected : ¬expected)
    (unlawful : ¬AllLawful history) : Settles expected result history :=
  ⟨fun holds => absurd holds unexpected, fun _ =>
    ⟨fun ⟨_, lawful⟩ => absurd lawful unlawful, fun ⟨holds, _⟩ => absurd holds unexpected⟩, returns⟩

theorem recorded_ok {record : PublicationAttemptRecord} (clean : Clean history) (expects : expected)
    (holds : Holds history record) (recorded : Recorded record) : Settles expected (.ok record) history := by
  refine ⟨fun _ _ => clean.lawful, fun _ => ⟨fun _ => ⟨expects, clean.calm⟩, fun _ => ?_⟩, holds.returns⟩
  exact ⟨⟨record, rfl, recorded⟩, clean.lawful⟩

theorem stopped (returns : Returns result history) (member : entry ∈ history)
    (escapes : Escapes entry) (refused : ¬AllAccepted history) : Settles expected result history :=
  ⟨fun _ calm => absurd escapes (calm entry member), fun accepted => absurd accepted refused, returns⟩

end Settles

theorem unlawful_next {source target : PublicationAttemptState} (forbidden : ¬Permitted source target) :
    ¬AllLawful (history ++ [⟨.requestMove source target, ()⟩]) :=
  fun lawful => forbidden (lawful _ List.mem_concat_self)

section
variable [ByteDigests] {publisher : EvidencePublisher} {digest : ArtifactDigest} {provider code : PublicationProvider}
  {record : PublicationAttemptRecord}

/-- What `fail` may do: its codes and messages can always be stored. -/
theorem fail_caught {state : PublicationAttemptState} {reason : PublicationFailureCode} {message : String}
    {verification : Option VerificationResult} {post : Except PublicationFailure PublicationAttemptRecord → Calls → Prop}
    (holds : Holds history record) (run : CodeFor provider code history) (fails : Fails code record state)
    (forbidden : ¬Permitted record.state state →
      post (.error (illegalTransition record.state state)) (history ++ [⟨.requestMove record.state state, ()⟩]))
    (refused : Permitted record.state state → ∀ error after, Caught history record after → ¬AllAccepted after →
      post (.error error) after)
    (recorded : Permitted record.state state → ∀ failed after, Recorded failed → Quietly history after →
      Holds after failed → post (.ok failed) after) :
    Keeps (Guard publisher digest provider) post (fail record state reason message verification).run history := by
  unfold fail
  refine .except_bind (transition_keeps holds (fun updated permitted transitioned =>
    ⟨code, run, transitioned.advances_fails permitted fails rfl⟩) ⟨forbidden, ?_, ?_⟩)
  · exact fun permitted error after caught reason => refused permitted error after caught (reason.resolve_right nofun)
  · intro permitted updated after transitioned quietly held
    have final : Recorded updated := by
      refine .inr ⟨transitioned.state ▸ fails.1, ?_⟩
      rw [transitioned.lastErrorCode]
      exact Option.some_ne_none _
    dsimp only
    split
    · refine .ask_bind trivial fun _ => keeps_pure ?_
      exact recorded permitted updated _ final (quietly.next .audit) (held.next _ rfl)
    · exact keeps_pure (recorded permitted updated after final quietly held)

theorem fail_keeps {state : PublicationAttemptState} {reason : PublicationFailureCode} {message : String}
    {verification : Option VerificationResult} (holds : Holds history record) (clean : Clean history)
    (run : CodeFor provider code history) (fails : Fails code record state) :
    Keeps (Guard publisher digest provider) (Settles (Permitted record.state state))
      (fail record state reason message verification).run history := by
  refine fail_caught holds run fails ?_ ?_ ?_
  · exact fun forbidden => .unlawful returns_error forbidden (unlawful_next forbidden)
  · exact fun _ _ _ caught refused => .unaccepted returns_error (clean.quietly caught.quietly) refused
  · exact fun permitted _ _ final quietly held => .recorded_ok (clean.quietly quietly) permitted held final

theorem fail_ends {state : PublicationAttemptState} {reason : PublicationFailureCode} {message : String}
    {verification : Option VerificationResult} {expected : Prop} (holds : Holds history record) (clean : Clean history)
    (run : CodeFor provider code history) (fails : Fails code record state) (permitted : Permitted record.state state)
    (expects : expected) :
    Keeps (Guard publisher digest provider) (Settles expected) (fail record state reason message verification).run history :=
  (fail_keeps holds clean run fails).post fun _ _ settles => settles.of ⟨fun _ => expects, fun _ => permitted⟩

theorem fail_escaped {state : PublicationAttemptState} {reason : PublicationFailureCode} {message : String}
    {verification : Option VerificationResult} {entry : Entry} (expected : Prop) (holds : Holds history record)
    (member : entry ∈ history) (escapes : Escapes entry) (forbidden : ¬Permitted record.state state) :
    Keeps (Guard publisher digest provider) (Settles expected) (fail record state reason message verification).run history := by
  unfold fail
  refine .except_bind (transition_keeps holds (fun _ permitted _ => absurd permitted forbidden) ⟨?_, ?_, ?_⟩)
  · exact fun _ => .escaped member escapes forbidden
  · exact fun permitted => absurd permitted forbidden
  · exact fun permitted => absurd permitted forbidden

theorem fail_lost {state : PublicationAttemptState} {reason : PublicationFailureCode} {message : String}
    {verification : Option VerificationResult} {expected : Prop}
    (lost : ∀ (result : Except PublicationFailure PublicationAttemptRecord) after, (∀ entry ∈ history, entry ∈ after) →
      Returns result after → Settles expected result after)
    (holds : Holds history record) (run : CodeFor provider code history) (fails : Fails code record state) :
    Keeps (Guard publisher digest provider) (Settles expected)
      (fail record state reason message verification).run history := by
  refine fail_caught holds run fails ?_ ?_ ?_
  · exact fun _ => lost _ _ (fun _ member => List.mem_append_left _ member) returns_error
  · exact fun _ _ _ caught _ => lost _ _ (fun _ member => caught.quietly.mem member) returns_error
  · exact fun _ _ _ _ quietly held => lost _ _ (fun _ member => quietly.mem member) held.returns

theorem fail_refused {state : PublicationAttemptState} {reason : PublicationFailureCode} {message : String}
    {verification : Option VerificationResult} {expected : Prop} (refused : ¬AllAccepted history) (clean : Clean history)
    (holds : Holds history record) (run : CodeFor provider code history) (fails : Fails code record state)
    (permitted : Permitted record.state state) :
    Keeps (Guard publisher digest provider) (Settles expected)
      (fail record state reason message verification).run history := by
  have still : ∀ {after}, Quietly history after → ¬AllAccepted after := fun quietly accepted => refused (quietly.accepted accepted)
  refine fail_caught holds run fails ?_ ?_ ?_
  · exact fun forbidden => absurd permitted forbidden
  · exact fun _ _ _ caught _ => .unaccepted returns_error (clean.quietly caught.quietly) (still caught.quietly)
  · exact fun _ _ _ _ quietly held => .unaccepted held.returns (clean.quietly quietly) (still quietly)

end

end Bnbera.Publication
