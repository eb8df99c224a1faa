import Bnbera.Publication.Reading

namespace Bnbera.Publication

open Interleaving

section

variable {record : PublicationAttemptRecord} {history : Calls}

def Storable (reference : String) : Prop := ∃ parsed, parseText 512 reference = .ok parsed

theorem parseText_text {high : Nat} (value : Checked (isTrimmedText high)) : parseText high value.text = .ok value := by
  have trimmed : trim value.text = value.text := by
    have accepted := value.accepted
    simp only [isTrimmedText, Bool.and_eq_true, beq_iff_eq] at accepted
    exact accepted.1.1
  rw [parseText, trimmed, check_text]

theorem Transitioned.storable {updated : PublicationAttemptRecord} {nextState : PublicationAttemptState}
    {patch : RecordPatch} {reference : String} (transitioned : Transitioned record nextState patch updated)
    (given : patch.providerReference = some (some reference)) : Storable reference := by
  have parsed := transitioned.providerReference
  rw [RecordPatch.reference, given] at parsed
  obtain ⟨text, done, _⟩ := map_eq_ok.mp parsed
  exact ⟨text, done⟩

theorem Storable.accepted {reference : String} {patch : RecordPatch} {error : PublicationFailure}
    (storable : Storable reference) (given : patch.providerReference = some (some reference)) :
    patch.reference record ≠ .error error := by
  obtain ⟨parsed, done⟩ := storable
  rw [RecordPatch.reference, given]
  show Except.map some (parseText 512 reference) ≠ _
  rw [done]
  exact nofun

theorem Storable.not_malformed {reference : String} (storable : Storable reference) : ¬MalformedReference reference := by
  intro malformed
  obtain ⟨parsed, done⟩ := storable
  rw [MalformedReference] at malformed
  rw [parseText, malformed] at done
  cases done

theorem rejected_malformed {reference : String} {patch : RecordPatch} {error : PublicationFailure}
    (rejected : patch.reference record = .error error) (given : patch.providerReference = some (some reference)) :
    MalformedReference reference := by
  by_contra fine
  obtain ⟨parsed, passes⟩ := Option.ne_none_iff_exists'.mp fine
  have storable : Storable reference := ⟨parsed, by rw [parseText, passes]⟩
  exact storable.accepted given rejected

/-- How a part of `runGreenfield` ends, given what went before it. -/
def ProgressEnds (before : Calls) : Except PublicationFailure EvidencePublisher.Progress → Calls → Prop
  | .error error, after => Settles True (.error error) after
  | .ok (.returned record), after => Settles True (.ok record) after
  | .ok (.continued next reference), after => ∃ text, reference = some text ∧ Storable text ∧ Clean after ∧ Holds after next ∧
    (next.state = .submitted ∨ next.state = .uploading) ∧ ∀ entry ∈ before, entry ∈ after

theorem ProgressEnds.of_settles {before after : Calls} {result : Except PublicationFailure PublicationAttemptRecord}
    (settles : Settles True result after) : ProgressEnds before (result.map EvidencePublisher.Progress.returned) after := by
  cases result with
  | error error => exact settles
  | ok record => exact settles

theorem ProgressEnds.after {before middle after : Calls} {result : Except PublicationFailure EvidencePublisher.Progress}
    (ends : ProgressEnds middle result after) (grows : ∀ entry ∈ before, entry ∈ middle) : ProgressEnds before result after := by
  rcases result with error | record | ⟨next, reference⟩
  · exact ends
  · exact ends
  · obtain ⟨text, given, storable, clean, held, state, member⟩ := ends
    exact ⟨text, given, storable, clean, held, state, fun entry old => member entry (grows entry old)⟩

namespace EvidencePublisher

variable [ByteDigests] {publisher : EvidencePublisher} {digest : ArtifactDigest} {provider : PublicationProvider}

theorem createOnce_keeps {post : Except PublicationFailure (PublicationAttemptRecord × Option String) → Calls → Prop}
    (holds : Holds history record) (run : CodeFor provider .greenfield history) (creating : record.state = .creatingObject)
    (inspected : publisher.inspectObject = true → ∃ before input inspected,
      history = before ++ [⟨.inspectObject input, .ok inspected⟩] ∧ inspected.status = .missing)
    (failed : ∀ error after, Caught history record after → post (.error error) after)
    (referred : ∀ next reference after, Storable reference → next.state = .submitted ∨ next.state = .uploading →
      Quietly history after → Holds after next → post (.ok (next, some reference)) after)
    (submitted : ∀ next after, next.state = .submitted → Quietly history after → Holds after next →
      post (.ok (next, none)) after)
    (confirmed : ∀ next after entry, next.state = .uploading → entry ∈ after → Escapes entry → Holds after next →
      post (.ok (next, none)) after)
    (stopped : ∀ error after entry, entry ∈ after → Escapes entry → ¬AllAccepted after → Holds after record →
      (∀ entry ∈ history, entry ∈ after) → post (.error error) after) :
    Keeps (Guard publisher digest provider) post (createOnce digest record).run history := by
  unfold createOnce
  refine .ask_bind ⟨⟨record, holds.held, creating⟩, inspected⟩ fun started => ?_
  have begun : Quietly history (history ++ [⟨.createObject (objectInput record digest), started⟩]) :=
    .one ⟨trivial, id⟩
  have heldBegun := holds.next ⟨.createObject (objectInput record digest), started⟩ rfl
  generalize history ++ [⟨PublisherCall.createObject (objectInput record digest), started⟩] = first at begun heldBegun ⊢
  refine .ask_bind trivial fun answer => ?_
  have held := heldBegun.next ⟨.createReturned, answer⟩ rfl
  cases answer with
  | error error =>
    exact .done (failed _ _ ⟨begun.next ⟨trivial, id⟩, held⟩)
  | ok created =>
    refine keeps_lift_bind nofun fun value same => ?_
    cases same
    refine keeps_lift_bind (fun error malformed => ?_) fun hash wellFormed => ?_
    · have quiet : Quiet ⟨.createReturned, .ok created⟩ :=
        ⟨trivial, fun escapes => escapes.2.2 (checkedTransactionHash_eq_error malformed)⟩
      exact failed _ _ ⟨begun.next quiet, held⟩
    · have legible := checkedTransactionHash_eq_ok wellFormed
      have fine : created.status = .submitted ∨ created.objectReference ≠ none → Quietly history
          (first ++ [⟨.createReturned, .ok created⟩]) := by
        refine fun either => begun.next ⟨trivial, fun escapes => ?_⟩
        rcases either with status | present
        · exact (nomatch status.symm.trans escapes.1)
        · exact present escapes.2.1
      have seen : ⟨.createReturned, .ok created⟩ ∈ first ++ [⟨.createReturned, .ok created⟩] := List.mem_concat_self
      have grown : ∀ entry ∈ history, entry ∈ first ++ [⟨.createReturned, .ok created⟩] :=
        fun _ member => List.mem_append_left _ (begun.mem member)
      generalize first ++ [⟨PublisherCall.createReturned, .ok created⟩] = second at held fine seen grown ⊢
      refine .except_bind (keeps_clockIf (fun _ => trivial) fun submittedAt third quietly same => ?_)
      have stillHeld : Holds third record :=
        ⟨same.trans held.held, fun accepted => held.leased (quietly.accepted accepted)⟩
      have moves : Permitted record.state (if created.status = .submitted then .submitted else .uploading) := by
        rw [creating]
        split <;> decide
      have plain : Plain (if created.status = .submitted then .submitted else .uploading) := by
        split <;> decide
      refine .except_bind (transition_keeps stillHeld (fun updated permitted transitioned =>
        ⟨.greenfield, run.mono fun _ member => quietly.mem (grown _ member), transitioned.advances_plain permitted plain rfl⟩)
        ⟨fun forbidden => absurd moves forbidden, fun _ error after caught reason => ?_, ?_⟩)
      · by_cases either : created.status = .submitted ∨ created.objectReference ≠ none
        · exact failed error after (caught.after ((fine either).trans quietly))
        · have absent : created.objectReference = none := by
            by_contra present
            exact either (.inr present)
          have refused : ¬AllAccepted after := by
            refine reason.resolve_right fun rejected => ?_
            rw [RecordPatch.reference, absent] at rejected
            cases rejected
          have confirming : created.status = .confirmed := by
            cases other : created.status with
            | submitted => exact absurd (.inl other) either
            | confirmed => rfl
          exact stopped error after _ (caught.quietly.mem (quietly.mem seen)) ⟨confirming, absent, legible⟩ refused
            caught.holds fun _ member => caught.quietly.mem (quietly.mem (grown _ member))
      · intro _ next after transitioned later nextHeld
        refine keeps_pure ?_
        have state := transitioned.state
        cases given : created.objectReference with
        | some reference =>
          have present : created.objectReference ≠ none := by rw [given]; exact nofun
          refine referred next reference after (transitioned.storable (congrArg some given)) ?_
            ((fine (.inr present)).trans (quietly.trans later)) nextHeld
          rw [state]
          split
          · exact .inl rfl
          · exact .inr rfl
        | none =>
          by_cases status : created.status = .submitted
          · rw [if_pos status] at state
            exact submitted next after state ((fine (.inl status)).trans (quietly.trans later)) nextHeld
          · rw [if_neg status] at state
            have confirming : created.status = .confirmed := by
              cases other : created.status with
              | submitted => exact absurd other status
              | confirmed => rfl
            exact confirmed next after _ state (later.mem (quietly.mem seen)) ⟨confirming, given, legible⟩ nextHeld

theorem createObject_keeps (holds : Holds history record) (clean : Clean history) (run : CodeFor provider .greenfield history)
    (creating : record.state = .creatingObject)
    (inspected : publisher.inspectObject = true → ∃ before input inspected,
      history = before ++ [⟨.inspectObject input, .ok inspected⟩] ∧ inspected.status = .missing) :
    Keeps (Guard publisher digest provider) (ProgressEnds history) (createObject digest record).run history := by
  unfold createObject
  refine .outcome_bind (createOnce_keeps holds run creating inspected ?_ ?_ ?_ ?_ ?_)
  · intro error after caught
    refine .except_map ((fail_ends caught.holds (clean.quietly caught.quietly) (run.mono fun _ member => caught.quietly.mem member)
      ⟨by decide, .inr ⟨rfl, rfl, by rw [creating]; decide⟩⟩ (by rw [creating]; decide) True.intro).post ?_)
    exact fun _ _ => .of_settles
  · intro next reference after storable state quietly held
    exact keeps_pure ⟨reference, rfl, storable, clean.quietly quietly, held, state, fun _ member => quietly.mem member⟩
  · intro next after state quietly held
    refine .except_map ((fail_ends held (clean.quietly quietly) (run.mono fun _ member => quietly.mem member)
      ⟨by decide, .inr ⟨rfl, rfl, by rw [state]; decide⟩⟩ (by rw [state]; decide) True.intro).post ?_)
    exact fun _ _ => .of_settles
  · intro next after entry state member escapes held
    refine .except_map ((fail_escaped True held member escapes (by rw [state]; decide)).post ?_)
    exact fun _ _ => .of_settles
  · intro error after entry member escapes refused held grows
    have lost : ∀ (result : Except PublicationFailure PublicationAttemptRecord) final, (∀ old ∈ after, old ∈ final) →
        Returns result final → Settles True result final :=
      fun _ _ more returns => .stopped returns (more entry member) escapes fun accepted =>
        refused fun old seen => accepted old (more old seen)
    refine .except_map ((fail_lost lost held (run.mono grows)
      ⟨by decide, .inr ⟨rfl, rfl, by rw [creating]; decide⟩⟩).post ?_)
    exact fun _ _ => .of_settles

end EvidencePublisher

end

variable {record : PublicationAttemptRecord}

namespace EvidencePublisher

theorem storable_reference {text : String} (member : text ∈ record.providerReference.map (·.text)) : Storable text := by
  obtain ⟨reference, _, rfl⟩ := Option.map_eq_some_iff.mp member
  exact ⟨reference, parseText_text reference⟩

def Resumable (record : PublicationAttemptRecord) : Prop :=
  record.state ∈ [PublicationAttemptState.validating, .creatingObject, .submitted, .awaitingSeal, .readingBack,
    .providerFailed] ∨ record.state = .uploading ∧ record.providerReference ≠ none

theorem resumable_iff (reading : record.state ≠ .readingBack) (awaiting : record.state ≠ .awaitingSeal) :
    (record.state = .submitted ∨ record.state = .uploading ∧ record.providerReference.map (·.text) ≠ none ∨
      record.state ≠ .uploading ∧ Permitted record.state .providerFailed) ↔ Resumable record := by
  have present : record.providerReference.map (·.text) ≠ none ↔ record.providerReference ≠ none := by
    rw [ne_eq, Option.map_eq_none_iff]
  rw [present, Resumable]
  generalize record.providerReference = reference
  generalize record.state = state at reading awaiting ⊢
  cases state <;> simp_all [Permitted, stateTransitions]

def GreenfieldStart (publisher : EvidencePublisher) (record : PublicationAttemptRecord) : Prop :=
  if publisher.greenfield = false then Permitted record.state .providerFailed else Resumable record

variable [UriParser] [ByteDigests] {publisher : EvidencePublisher} {digest : ArtifactDigest}
  {provider : PublicationProvider} {history : Calls}

theorem greenfieldLocator_locates {uri reference : String} {locator : EvidenceLocator}
    (created : publisher.greenfieldLocator digest record uri reference = .ok locator) :
    Locates publisher digest .greenfield locator :=
  createEvidenceLocator_locates created rfl rfl rfl rfl

theorem recoverObject_keeps {input : ObjectInput} {inspected : GreenfieldInspectReceipt} (before : Calls)
    (same : history = before ++ [⟨.inspectObject input, .ok inspected⟩]) (clean : Clean before)
    (holds : Holds history record) (run : CodeFor provider .greenfield history) (creating : record.state = .creatingObject)
    (found : inspected.status ≠ .missing) :
    Keeps (Guard publisher digest provider) (ProgressEnds before) (publisher.recoverObject digest record inspected).run
      history := by
  have seen : ⟨.inspectObject input, .ok inspected⟩ ∈ history := by rw [same]; exact List.mem_concat_self
  have fine : ¬InspectEscapes inspected → Quietly before history := by
    rw [same]
    exact fun calm => .one ⟨trivial, calm⟩
  have fails : ¬InspectEscapes inspected → ∀ message, Keeps (Guard publisher digest provider) (ProgressEnds before)
      (Progress.returned <$> fail record .createFailed .createFailed message none).run history := by
    intro calm message
    refine .except_map ((fail_ends holds (clean.quietly (fine calm)) run ⟨by decide, .inr ⟨rfl, rfl, by rw [creating]; decide⟩⟩
      (by rw [creating]; decide) True.intro).post ?_)
    exact fun _ _ => .of_settles
  unfold recoverObject
  split
  · rename_i absent
    exact fails (fun ⟨_, reference, present, _⟩ => (nomatch absent.symm.trans present)) _
  · rename_i reference present
    refine keeps_lift_bind (fun error malformed => ?_) fun hash wellFormed => ?_
    · exact Settles.thrown seen ⟨found, reference, present, .inl (checkedTransactionHash_eq_error malformed)⟩
    · have legible := checkedTransactionHash_eq_ok wellFormed
      split
      · rename_i absent
        subst absent
        refine fails (fun ⟨_, _, _, escapes⟩ => ?_) _
        rcases escapes with malformed | ⟨⟨_, given⟩, _⟩
        · exact legible malformed
        · cases wellFormed.symm.trans given
      · rename_i given
        obtain ⟨known, rfl⟩ := Option.ne_none_iff_exists'.mp given
        split
        · rename_i sealed
          have escapes : InspectEscapes inspected := ⟨found, reference, present, .inr ⟨⟨known, wellFormed⟩, .inl sealed⟩⟩
          refine keeps_lift_bind (fun error _ => Settles.thrown seen escapes) fun locator created => ?_
          refine keeps_lift_bind (fun error _ => Settles.thrown seen escapes) fun sealHash _ => ?_
          have forbidden : ¬Permitted record.state .awaitingSeal := by rw [creating]; decide
          refine .except_bind (transition_keeps holds (fun _ permitted _ => absurd permitted forbidden) ⟨?_, ?_, ?_⟩)
          · exact fun _ => Settles.escaped seen escapes forbidden
          · exact fun permitted => absurd permitted forbidden
          · exact fun permitted => absurd permitted forbidden
        · rename_i unsealed
          have permitted : Permitted record.state .uploading := by rw [creating]; decide
          have calm : ¬MalformedReference reference → Quietly before history := by
            refine fun storable => fine ?_
            rintro ⟨_, other, given, escapes⟩
            cases Option.some.inj (present.symm.trans given)
            rcases escapes with malformed | ⟨_, sealed | unstorable⟩
            · exact legible malformed
            · exact unsealed sealed
            · exact storable unstorable
          refine .except_bind (transition_keeps holds (fun updated permitted transitioned =>
            ⟨.greenfield, run, transitioned.advances_plain permitted (by decide) rfl⟩)
            ⟨fun forbidden => absurd permitted forbidden, fun _ error after caught reason => ?_, ?_⟩)
          · by_cases unstorable : MalformedReference reference
            · exact Settles.thrown (caught.quietly.mem seen)
                ⟨found, reference, present, .inr ⟨⟨known, wellFormed⟩, .inr unstorable⟩⟩
            · have refused := reason.resolve_right fun rejected => unstorable (rejected_malformed rejected rfl)
              exact .unaccepted returns_error ((clean.quietly (calm unstorable)).quietly caught.quietly) refused
          · intro _ next after transitioned quietly held
            have storable : Storable reference := transitioned.storable rfl
            refine keeps_pure ⟨reference, rfl, storable, (clean.quietly (calm storable.not_malformed)).quietly quietly, held,
              .inr transitioned.state, fun entry member => quietly.mem ?_⟩
            rw [same]
            exact List.mem_append_left _ member

/-- An object is inspected before it is created, where the adapter can. -/
theorem inspectOrCreate_keeps (holds : Holds history record) (clean : Clean history)
    (run : CodeFor provider .greenfield history) (creating : record.state = .creatingObject) :
    Keeps (Guard publisher digest provider) (ProgressEnds history) (publisher.inspectOrCreate digest record).run history := by
  unfold inspectOrCreate
  split
  · rename_i absent
    exact createObject_keeps holds clean run creating fun present => (nomatch absent.symm.trans present)
  · refine .ask_bind ⟨record, holds.held, creating⟩ fun answer => ?_
    have held := holds.next ⟨.inspectObject (objectInput record digest), answer⟩ rfl
    have again := run.mono fun entry member =>
      List.mem_append_left [⟨.inspectObject (objectInput record digest), answer⟩] member
    cases answer with
    | error error =>
      refine .except_map ((fail_ends held (clean.quietly (.one ⟨trivial, id⟩)) again
        ⟨by decide, .inl (by decide)⟩ (by rw [creating]; decide) True.intro).post ?_)
      exact fun _ _ => .of_settles
    | ok inspected =>
      dsimp only
      split
      · rename_i missing
        have quietly : Quietly history (history ++ [⟨.inspectObject (objectInput record digest), .ok inspected⟩]) :=
          .one ⟨trivial, fun escapes => escapes.1 missing⟩
        refine (createObject_keeps held (clean.quietly quietly) again creating fun _ => ⟨_, _, _, rfl, missing⟩).post ?_
        exact fun _ _ ends => ends.after fun _ member => quietly.mem member
      · rename_i found
        exact recoverObject_keeps history rfl clean held again creating found

theorem uploadGreenfield_keeps {post : Except PublicationFailure PublicationAttemptRecord → Calls → Prop}
    {reference : String} (holds : Holds history record) (run : CodeFor provider .greenfield history)
    (uploading : record.state = .uploading)
    (failed : ∀ error after, Caught history record after → post (.error error) after)
    (uploaded : ∀ next after, next.state = .awaitingSeal → Quietly history after → Holds after next → post (.ok next) after) :
    Keeps (Guard publisher digest provider) post (publisher.uploadGreenfield digest record reference).run history := by
  unfold uploadGreenfield
  refine .ask_bind trivial fun answer => ?_
  have held := holds.next
    ⟨.uploadObject (uploadInput record digest) reference record.creationTransactionHash, answer⟩ rfl
  have quietly : Quietly history
      (history ++ [⟨.uploadObject (uploadInput record digest) reference record.creationTransactionHash, answer⟩]) :=
    .one ⟨trivial, id⟩
  have caught : ∀ {error}, post (.error error) _ := fun {error} => failed error _ ⟨quietly, held⟩
  refine keeps_lift_bind (fun _ _ => caught) fun receipt _ => ?_
  refine keeps_lift_bind (fun _ _ => caught) fun _ _ => ?_
  refine keeps_lift_bind (fun _ _ => caught) fun _ _ => ?_
  split
  · exact keeps_throw caught
  · refine keeps_lift_bind (fun _ _ => caught) fun _ _ => ?_
    refine keeps_lift_bind (fun _ _ => caught) fun locator created => ?_
    refine transition_keeps held (fun updated permitted transitioned =>
      ⟨.greenfield, run.mono fun _ member => quietly.mem member, ?_⟩) ⟨?_, ?_, ?_⟩
    · have written : updated.locator = some locator := transitioned.locator
      refine transitioned.advances_stored permitted (.inl rfl) (fun new member => .inl ?_) (fun absent => ?_) nofun
      · cases Option.some.inj (written.symm.trans member)
        exact greenfieldLocator_locates created
      · cases written.symm.trans absent
    · rw [uploading]
      exact fun forbidden => absurd (by decide) forbidden
    · exact fun _ error after stopped _ => failed error after (stopped.after quietly)
    · exact fun _ next after transitioned later nextHeld =>
        uploaded next after transitioned.state (quietly.trans later) nextHeld

/-- Where the upload of an object ends: without a reference, only a submitted create can fail. -/
theorem uploadObject_keeps {reference : Option String} (holds : Holds history record) (clean : Clean history)
    (run : CodeFor provider .greenfield history) (state : record.state = .submitted ∨ record.state = .uploading)
    (storable : ∀ text ∈ reference, Storable text) :
    Keeps (Guard publisher digest provider) (Settles (record.state = .submitted ∨ reference ≠ none))
      (publisher.uploadObject digest record reference).run history := by
  unfold uploadObject
  cases reference with
  | none =>
    refine (fail_keeps holds clean run ⟨by decide, .inr ⟨rfl, rfl, ?_⟩⟩).post fun _ _ settles => settles.of ?_
    · rcases state with same | same <;> rw [same] <;> decide
    · rcases state with same | same <;> rw [same] <;> decide
  | some reference =>
    have expects : record.state = .submitted ∨ some reference ≠ none := .inr (Option.some_ne_none _)
    have rest : ∀ {after next}, Holds after next → Clean after → CodeFor provider .greenfield after →
        next.state = .uploading → Keeps (Guard publisher digest provider)
          (Settles (record.state = .submitted ∨ some reference ≠ none))
          (publisher.storeObject digest next reference).run after := by
      intro after next held fine again uploading
      unfold storeObject
      split
      · refine .outcome_bind (uploadGreenfield_keeps held again uploading ?_ ?_)
        · intro error final caught
          exact fail_ends caught.holds (fine.quietly caught.quietly)
            (again.mono fun _ member => caught.quietly.mem member) ⟨by decide, .inl (by decide)⟩
            (by rw [uploading]; decide) expects
        · intro sealing final awaiting quietly sealingHeld
          exact awaitSeal_keeps expects sealingHeld (fine.quietly quietly) (again.mono fun _ member => quietly.mem member)
            awaiting
      · rename_i located
        refine .except_bind (transition_keeps held (fun updated permitted transitioned => ⟨.greenfield, again, ?_⟩)
          ⟨?_, ?_, ?_⟩)
        · exact transitioned.advances_stored permitted (.inl rfl)
            (fun _ member => .inr (transitioned.locator_kept rfl member))
            (fun absent => absurd (transitioned.locator.symm.trans absent) located) nofun
        · rw [uploading]
          exact fun forbidden => absurd (by decide) forbidden
        · exact fun _ _ _ caught reason => .unaccepted returns_error (fine.quietly caught.quietly)
            (reason.resolve_right ((storable reference rfl).accepted rfl))
        · intro _ sealing final transitioned quietly sealingHeld
          exact awaitSeal_keeps expects sealingHeld (fine.quietly quietly) (again.mono fun _ member => quietly.mem member)
            transitioned.state
    dsimp only
    split
    · rename_i submitted
      refine .except_bind (transition_keeps holds (fun updated permitted transitioned =>
        ⟨.greenfield, run, transitioned.advances_plain permitted (by decide) rfl⟩) ⟨?_, ?_, ?_⟩)
      · rw [submitted]
        exact fun forbidden => absurd (by decide) forbidden
      · exact fun _ _ _ caught reason => .unaccepted returns_error (clean.quietly caught.quietly) (reason.resolve_right nofun)
      · intro _ next after transitioned quietly held
        exact rest held (clean.quietly quietly) (run.mono fun _ member => quietly.mem member) transitioned.state
    · rename_i other
      exact rest holds clean run (state.resolve_left other)

theorem resumeUpload_keeps {reference : Option String} (holds : Holds history record) (clean : Clean history)
    (run : CodeFor provider .greenfield history) (storable : ∀ text ∈ reference, Storable text) :
    Keeps (Guard publisher digest provider)
      (Settles (record.state = .submitted ∨ record.state = .uploading ∧ reference ≠ none ∨
        record.state ≠ .uploading ∧ Permitted record.state .providerFailed))
      (publisher.resumeUpload digest record reference).run history := by
  unfold resumeUpload
  split
  · rename_i state
    refine (uploadObject_keeps holds clean run state storable).post fun _ _ settles => settles.of ?_
    rcases state with same | same
    · exact ⟨fun _ => .inl same, fun _ => .inl same⟩
    · rw [same]
      constructor
      · rintro (other | present)
        · exact nomatch other
        · exact .inr (.inl ⟨rfl, present⟩)
      · rintro (other | ⟨_, present⟩ | ⟨other, _⟩)
        · exact nomatch other
        · exact .inr present
        · exact absurd rfl other
  · rename_i other
    obtain ⟨notSubmitted, notUploading⟩ := not_or.mp other
    refine (fail_keeps holds clean run ⟨by decide, .inl (by decide)⟩).post fun _ _ settles => settles.of ?_
    constructor
    · exact fun permitted => .inr (.inr ⟨notUploading, permitted⟩)
    · rintro (same | ⟨same, _⟩ | ⟨_, permitted⟩)
      · exact absurd same notSubmitted
      · exact absurd same notUploading
      · exact permitted

theorem runGreenfield_keeps (holds : Holds history record) (clean : Clean history)
    (run : CodeFor provider .greenfield history) :
    Keeps (Guard publisher digest provider) (Settles (publisher.GreenfieldStart record))
      (publisher.runGreenfield digest record).run history := by
  unfold runGreenfield GreenfieldStart
  by_cases absent : publisher.greenfield = false
  · rw [if_pos absent, if_pos absent]
    exact fail_keeps holds clean run ⟨by decide, .inl (by decide)⟩
  · rw [if_neg absent, if_neg absent]
    have storable : ∀ text ∈ record.providerReference.map (·.text), Storable text := fun _ => storable_reference
    by_cases reading : record.state = .readingBack
    · rw [if_pos reading]
      have expects : Resumable record := .inl (by rw [reading]; decide)
      split
      · exact fail_ends holds clean run ⟨by decide, .inl (by decide)⟩ (by rw [reading]; decide) expects
      · exact verifyReadback_keeps expects holds clean run reading (fun _ => rfl) (readGreenfield_reads holds reading)
    · rw [if_neg reading]
      by_cases awaiting : record.state = .awaitingSeal
      · rw [if_pos awaiting]
        have expects : Resumable record := .inl (by rw [awaiting]; decide)
        split
        · exact awaitSeal_keeps expects holds clean run awaiting
        · exact fail_ends holds clean run ⟨by decide, .inl (by decide)⟩ (by rw [awaiting]; decide) expects
      · rw [if_neg awaiting]
        split
        · rename_i fresh
          have expects : Resumable record := .inl (by rcases fresh.1 with same | same <;> rw [same] <;> decide)
          have rest : ∀ {after next}, Holds after next → Clean after → CodeFor provider .greenfield after →
              next.state = .creatingObject → Keeps (Guard publisher digest provider) (Settles (Resumable record))
                (publisher.createFirst digest next).run after := by
            intro after next held fine again creating
            unfold createFirst
            refine .except_bind ((inspectOrCreate_keeps held fine again creating).post ?_)
            rintro (error | ended | ⟨continued, reference⟩) final ends
            · exact ends.of ⟨fun _ => expects, fun _ => trivial⟩
            · exact keeps_pure (ends.of ⟨fun _ => expects, fun _ => trivial⟩)
            · obtain ⟨text, rfl, storable, cleanFinal, heldFinal, state, grows⟩ := ends
              refine (resumeUpload_keeps heldFinal cleanFinal (again.mono grows) fun other member => ?_).post
                fun _ _ settles => settles.of ⟨fun _ => expects, fun _ => ?_⟩
              · cases Option.some.inj member
                exact storable
              · exact state.imp_right fun uploading => .inl ⟨uploading, Option.some_ne_none _⟩
          split
          · rename_i creating
            exact rest holds clean run creating
          · rename_i other
            have validating := fresh.1.resolve_right other
            refine .except_bind (transition_keeps holds (fun updated permitted transitioned =>
              ⟨.greenfield, run, transitioned.advances_plain permitted (by decide) rfl⟩) ⟨?_, ?_, ?_⟩)
            · rw [validating]
              exact fun forbidden => absurd (by decide) forbidden
            · exact fun _ _ _ caught reason => .unaccepted returns_error (clean.quietly caught.quietly) (reason.resolve_right nofun)
            · intro _ next after transitioned quietly held
              exact rest held (clean.quietly quietly) (run.mono fun _ member => quietly.mem member) transitioned.state
        · rename_i stale
          refine (resumeUpload_keeps holds clean run storable).post fun _ _ settles => settles.of ?_
          exact resumable_iff reading awaiting

end EvidencePublisher

end Bnbera.Publication
