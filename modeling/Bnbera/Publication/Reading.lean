import Bnbera.Publication.Settling

namespace Bnbera.Publication

open Interleaving

section

variable [ByteDigests] {publisher : EvidencePublisher} {digest : ArtifactDigest}
  {provider code : PublicationProvider} {record : PublicationAttemptRecord} {history : Calls}

def Reads (guard : Calls → PublisherCall → Prop) (history : Calls) (read : Work Bytes) : Prop :=
  ∀ post : Except PublicationFailure Bytes → Calls → Prop,
    (∀ result entry, Quiet entry → (∀ held, heldAfter held entry = held) →
      (∀ bytes, result = .ok bytes → ReadReturned bytes entry) → post result (history ++ [entry])) →
    Keeps guard post read.run history

theorem readIpfs_reads {uri : String} (holds : Holds history record) (reading : record.state = .readingBack) :
    Reads (Guard publisher digest provider) history (EvidencePublisher.readIpfs uri) := by
  intro post answered
  unfold EvidencePublisher.readIpfs
  refine .ask_bind ⟨record, holds.held, reading⟩ fun answer => ?_
  cases answer with
  | error error => exact .done <| answered _ _ ⟨trivial, id⟩ (fun _ => rfl) nofun
  | ok bytes => exact .done <| answered _ _ ⟨trivial, id⟩ (fun _ => rfl) fun _ same => same

theorem readGreenfield_reads {reference : String} (holds : Holds history record) (reading : record.state = .readingBack) :
    Reads (Guard publisher digest provider) history (EvidencePublisher.readGreenfield reference) := by
  intro post answered
  unfold EvidencePublisher.readGreenfield
  refine .ask_bind ⟨record, holds.held, reading⟩ fun answer => ?_
  cases answer with
  | error error => exact .done <| answered _ _ ⟨trivial, id⟩ (fun _ => rfl) nofun
  | ok bytes => exact .done <| answered _ _ ⟨trivial, id⟩ (fun _ => rfl) fun _ same => same

theorem readbackVerification_matches {checkedAt : Int} {sealConfirmed : Option Bool} {bytes : Bytes}
    (verified : (readbackVerification checkedAt sealConfirmed digest bytes).status = .verified) :
    bytes = digest.canonicalBytes := by
  by_contra other
  dsimp only [readbackVerification, createVerificationResult] at verified
  rw [if_neg other, if_neg fun conditions => (nomatch conditions.1)] at verified
  cases verified

theorem storeVerified_keeps {checkedAt : Int} {sealConfirmed : Option Bool} {expected : Prop} (expects : expected)
    (holds : Holds history record)
    (clean : Clean history) (run : CodeFor provider code history) (reading : record.state = .readingBack)
    (confirmed : code = .greenfield → sealConfirmed = some true)
    (verified : (readbackVerification checkedAt sealConfirmed digest digest.canonicalBytes).status = .verified)
    (read : ∃ entry ∈ history, ReadReturned digest.canonicalBytes entry) :
    Keeps (Guard publisher digest provider) (Settles expected)
      (storeVerified record (readbackVerification checkedAt sealConfirmed digest digest.canonicalBytes)).run history := by
  have moves : Permitted record.state .verified := by rw [reading]; decide
  have stores : ∀ {after locator}, Holds after record → Quietly history after →
      (∀ old ∈ record.locator, ∃ time, locator = some { old with verifiedAt := some time }) →
      (∀ new ∈ locator, ∃ old ∈ record.locator, new = { old with verifiedAt := new.verifiedAt }) →
      Keeps (Guard publisher digest provider) (Settles expected) (transition record .verified {
        verification := some (some (readbackVerification checkedAt sealConfirmed digest digest.canonicalBytes))
        locator := some locator }).run after := by
    intro after locator held quietly dated kept
    refine transition_keeps held (fun updated permitted transitioned =>
      ⟨code, run.mono fun _ member => quietly.mem member, ?_⟩) ?_
    · have state := transitioned.state
      have written : updated.locator = locator := transitioned.locator
      exact {
        identity := transitioned.identity
        revision := transitioned.revision
        leaseOwner := transitioned.leaseOwner
        leaseExpiresAt := transitioned.leaseExpiresAt
        permitted := by rwa [state]
        unverified := by rw [reading]; exact nofun
        recreated := by rw [reading]; exact nofun
        created := fun created => nomatch state.symm.trans created
        retried := fun retrying => nomatch state.symm.trans retrying
        locator := fun new member => .inr (kept new (written ▸ member))
        located := fun located => by rw [state] at located; exact located.elim nofun nofun
        sealed := fun reading => nomatch state.symm.trans reading
        verified := fun _ => {
          reading := reading
          read := read.imp fun _ ⟨member, returned⟩ => ⟨quietly.mem member, returned⟩
          verification := ⟨checkedAt, sealConfirmed, transitioned.verification, verified, confirmed⟩
          locator := fun old member => (dated old member).imp fun _ same => written.trans same } }
    · refine ⟨fun forbidden => absurd moves forbidden, fun _ _ _ caught reason =>
        .unaccepted returns_error (clean.quietly (quietly.trans caught.quietly)) (reason.resolve_right nofun),
        fun _ updated final transitioned quiet stored => ?_⟩
      exact .recorded_ok (clean.quietly (quietly.trans quiet)) expects stored (.inl transitioned.state)
  unfold storeVerified
  split
  · rename_i absent
    refine stores holds .refl ?_ fun _ member => (nomatch member)
    intro old member
    rw [absent] at member
    cases member
  · rename_i locator present
    refine .ask_bind trivial fun verifiedAt => ?_
    refine stores (holds.next _ rfl) (.one (.clock _)) ?_ ?_
    · intro old member
      cases Option.some.inj (present.symm.trans member)
      exact ⟨verifiedAt, rfl⟩
    · intro new member
      cases Option.some.inj member
      exact ⟨locator, present, rfl⟩

/-- A record that reads back always ends. -/
theorem verifyReadback_keeps {read : Work Bytes} {sealConfirmed : Option Bool} {expected : Prop} (expects : expected)
    (holds : Holds history record) (clean : Clean history) (run : CodeFor provider code history) (reading : record.state = .readingBack)
    (confirmed : code = .greenfield → sealConfirmed = some true)
    (reads : Reads (Guard publisher digest provider) history read) :
    Keeps (Guard publisher digest provider) (Settles expected) (verifyReadback record digest read sealConfirmed).run history := by
  have ends : ∀ {after state reason message verification}, Holds after record → Quietly history after →
      state = .readbackFailed ∨ state = .hashMismatch → Keeps (Guard publisher digest provider) (Settles expected)
        (fail record state reason message verification).run after := by
    intro after state reason message verification held quietly failure
    have permitted : Permitted record.state state := by
      rw [reading]
      rcases failure with rfl | rfl <;> decide
    refine fail_ends held (clean.quietly quietly) (run.mono fun _ member => quietly.mem member) ?_ permitted expects
    rcases failure with rfl | rfl <;> exact ⟨by decide, .inl (by decide)⟩
  unfold verifyReadback
  refine .outcome_bind (reads _ fun result entry quiet same returned => ?_)
  have held := holds.next entry (same _)
  have quietly : Quietly history (history ++ [entry]) := .one quiet
  cases result with
  | error error =>
    dsimp only
    refine .ask_bind trivial fun checkedAt => ?_
    exact ends (held.next _ rfl) (quietly.next (.clock _)) (.inl rfl)
  | ok bytes =>
    dsimp only
    refine .ask_bind trivial fun checkedAt => ?_
    have later := quietly.next (.clock checkedAt)
    have stillHeld := held.next ⟨.clock, checkedAt⟩ rfl
    have seen : entry ∈ history ++ [entry] ++ [⟨.clock, checkedAt⟩] := List.mem_append_left _ List.mem_concat_self
    generalize history ++ [entry] ++ [⟨PublisherCall.clock, checkedAt⟩] = after at later stillHeld seen ⊢
    split
    · refine ends stillHeld later ?_
      split
      · exact .inr rfl
      · exact .inl rfl
    · rename_i accepted
      have verified := not_not.mp accepted
      have same := readbackVerification_matches verified
      subst same
      exact storeVerified_keeps expects stillHeld (clean.quietly later) (run.mono fun _ member => later.mem member) reading
        confirmed verified ⟨entry, seen, returned _ rfl⟩

end

section

theorem checkedTransactionHash_eq_error {value : Option String} {field : String} {error : PublicationFailure}
    (failed : checkedTransactionHash value field = .error error) : Malformed value := by
  cases value with
  | none => cases failed
  | some text =>
    refine ⟨text, rfl, ?_⟩
    by_contra passes
    dsimp only [checkedTransactionHash] at failed
    rw [if_pos (Bool.of_not_eq_false passes)] at failed
    cases failed

theorem checkedTransactionHash_eq_ok {value : Option String} {field : String} {hash : Option ProviderHash}
    (passed : checkedTransactionHash value field = .ok hash) : ¬Malformed value := by
  rintro ⟨text, member, malformed⟩
  cases Option.mem_def.mp member
  dsimp only [checkedTransactionHash] at passed
  rw [malformed] at passed
  cases passed

variable [ByteDigests] {publisher : EvidencePublisher} {digest : ArtifactDigest}
  {provider code : PublicationProvider} {record : PublicationAttemptRecord} {history : Calls}

namespace EvidencePublisher

theorem pollSeal_keeps {post : Except PublicationFailure (PublicationAttemptRecord ⊕ SealStatus) → Calls → Prop}
    {reference : String} {attempt : Nat} (holds : Holds history record) (run : CodeFor provider code history)
    (awaiting : record.state = .awaitingSeal)
    (failed : ∀ error after, Caught history record after → post (.error error) after)
    (read : ∀ next after, next.state = .readingBack → Quietly history after → Holds after next → post (.ok (.inl next)) after)
    (missing : ∀ entry, Escapes entry → Holds (history ++ [entry]) record → post (.ok (.inr .missing)) (history ++ [entry]))
    (pending : ∀ after, Quietly history after → Holds after record → post (.ok (.inr .pending)) after) :
    Keeps (Guard publisher digest provider) post (pollSeal record reference attempt).run history := by
  unfold pollSeal
  refine .ask_bind trivial fun answer => ?_
  have held := holds.next ⟨.waitForSeal reference attempt, answer⟩ rfl
  cases answer with
  | error error =>
    exact .done (failed _ _ ⟨.one ⟨trivial, id⟩, held⟩)
  | ok receipt =>
    refine keeps_lift_bind nofun fun value same => ?_
    cases same
    refine keeps_lift_bind (fun error malformed => ?_) fun hash wellFormed => ?_
    · have quiet : Quiet ⟨.waitForSeal reference attempt, .ok receipt⟩ :=
        ⟨trivial, fun escapes => escapes.2 (checkedTransactionHash_eq_error malformed)⟩
      exact failed _ _ ⟨.one quiet, held⟩
    · have legible := checkedTransactionHash_eq_ok wellFormed
      by_cases sealed : receipt.status = .sealed
      · rw [if_pos sealed]
        have quiet : Quiet ⟨.waitForSeal reference attempt, .ok receipt⟩ :=
          ⟨trivial, fun escapes => (nomatch sealed.symm.trans escapes.1)⟩
        have quietly : Quietly history (history ++ [⟨.waitForSeal reference attempt, .ok receipt⟩]) := .one quiet
        refine .except_bind (transition_keeps held (fun updated permitted transitioned =>
          ⟨code, run.mono fun _ member => quietly.mem member, ?_⟩) ⟨?_, ?_, ?_⟩)
        · refine transitioned.advances_stored permitted (.inr rfl) (fun _ member => .inr (transitioned.locator_kept rfl member))
            (fun absent => ⟨transitioned.locator.symm.trans absent, .inl awaiting⟩) fun _ _ => ?_
          exact ⟨_, List.mem_concat_self, sealed⟩
        · rw [awaiting]
          exact fun forbidden => absurd (by decide) forbidden
        · exact fun _ error after caught _ => failed error after (caught.after quietly)
        · intro _ next after transitioned later nextHeld
          exact keeps_pure (read next after transitioned.state (quietly.trans later) nextHeld)
      · rw [if_neg sealed]
        refine keeps_pure ?_
        cases status : receipt.status with
        | sealed => exact absurd status sealed
        | missing => exact missing _ ⟨status, legible⟩ held
        | pending => exact pending _ (.one ⟨trivial, fun escapes => (nomatch status.symm.trans escapes.1)⟩) held

/-- An object that waits for its seal: it ends unless the seal is reported missing. -/
theorem awaitSeal_keeps {reference : String} {remaining attempt : Nat} {expected : Prop} (expects : expected)
    (holds : Holds history record) (clean : Clean history) (run : CodeFor provider code history)
    (awaiting : record.state = .awaitingSeal) :
    Keeps (Guard publisher digest provider) (Settles expected)
      (publisher.awaitSeal digest reference attempt remaining record).run history := by
  induction remaining generalizing history record attempt with
  | zero =>
    unfold awaitSeal
    exact fail_ends holds clean run ⟨by decide, .inl (by decide)⟩ (by rw [awaiting]; decide) expects
  | succ remaining ih =>
    unfold awaitSeal
    refine .outcome_bind (pollSeal_keeps holds run awaiting ?_ ?_ ?_ ?_)
    · intro error after caught
      exact fail_ends caught.holds (clean.quietly caught.quietly) (run.mono fun _ member => caught.quietly.mem member) ⟨by decide, .inl (by decide)⟩
        (by rw [awaiting]; decide) expects
    · intro next after reads quietly held
      exact verifyReadback_keeps expects held (clean.quietly quietly) (run.mono fun _ member => quietly.mem member) reads
        (fun _ => rfl) (readGreenfield_reads held reads)
    · intro entry escapes held
      exact fail_escaped _ held List.mem_concat_self escapes (by rw [awaiting]; decide)
    · intro after quietly held
      have again := run.mono fun _ member => quietly.mem member
      dsimp only
      split
      · exact ih held (clean.quietly quietly) again awaiting
      · refine .except_bind (transition_keeps held (fun updated permitted transitioned => ⟨code, again, ?_⟩) ⟨?_, ?_, ?_⟩)
        · exact transitioned.advances_stored permitted (.inl rfl)
            (fun _ member => .inr (transitioned.locator_kept rfl member))
            (fun absent => ⟨transitioned.locator.symm.trans absent, .inl awaiting⟩) nofun
        · rw [awaiting]
          exact fun forbidden => absurd (by decide) forbidden
        · exact fun _ _ _ caught reason =>
            .unaccepted returns_error (clean.quietly (quietly.trans caught.quietly)) (reason.resolve_right nofun)
        · intro _ next final transitioned later nextHeld
          have still := again.mono fun _ member => later.mem member
          have fine := clean.quietly (quietly.trans later)
          dsimp only
          split
          · refine .ask_bind trivial fun _ => ?_
            exact ih (nextHeld.next _ rfl) (fine.quietly (.one .sleep))
              (still.mono fun _ member => List.mem_append_left _ member) transitioned.state
          · exact ih nextHeld fine still transitioned.state

end EvidencePublisher

end

variable [UriParser] [ByteDigests] {publisher : EvidencePublisher} {digest : ArtifactDigest}
  {provider : PublicationProvider} {record : PublicationAttemptRecord} {history : Calls}

theorem createEvidenceLocator_locates {input : LocatorInput} {locator : EvidenceLocator} {code : PublicationProvider}
    (created : createEvidenceLocator input = .ok locator) (own : input.provider = code)
    (label : input.providerLabel = publisher.providerLabel code) (network : input.network = publisher.configuredNetwork code)
    (bucket : input.bucket = publisher.configuredBucket code) : Locates publisher input.digest code locator := by
  obtain ⟨uri, _, rest⟩ := bind_eq_ok.mp created
  obtain ⟨reference, _, rest⟩ := bind_eq_ok.mp rest
  obtain ⟨_, done⟩ := refuseIf_bind_eq_ok.mp rest
  cases done
  exact ⟨own, label, network, bucket, rfl, rfl, rfl, rfl⟩

namespace EvidencePublisher

theorem uploadIpfs_keeps {post : Except PublicationFailure (IpfsUploadReceipt × PublicationAttemptRecord) → Calls → Prop}
    (holds : Holds history record) (run : CodeFor provider .ipfs history) (uploading : record.state = .uploading)
    (failed : ∀ error after, Caught history record after → post (.error error) after)
    (uploaded : ∀ receipt next after, next.state = .readingBack → Quietly history after → Holds after next →
      post (.ok (receipt, next)) after) :
    Keeps (Guard publisher digest provider) post (publisher.uploadIpfs digest record).run history := by
  unfold uploadIpfs
  refine .ask_bind trivial fun answer => ?_
  have quietly : Quietly history (history ++ [⟨.ipfsUpload (uploadInput record digest), answer⟩]) :=
    .one ⟨trivial, id⟩
  have held := holds.next ⟨.ipfsUpload (uploadInput record digest), answer⟩ rfl
  have caught : ∀ {error}, post (.error error) _ := fun {error} => failed error _ ⟨quietly, held⟩
  refine keeps_lift_bind (fun _ _ => caught) fun receipt _ => ?_
  refine keeps_lift_bind (fun _ _ => caught) fun _ _ => ?_
  refine keeps_lift_bind (fun _ _ => caught) fun locator created => ?_
  have located : Locates publisher digest .ipfs locator := createEvidenceLocator_locates created rfl rfl rfl rfl
  refine .except_bind (transition_keeps held (fun updated permitted transitioned =>
    ⟨.ipfs, run.mono fun _ member => quietly.mem member, ?_⟩) ⟨?_, ?_, ?_⟩)
  · have written : updated.locator = some locator := transitioned.locator
    refine transitioned.advances_stored permitted (.inr rfl) (fun new member => .inl ?_) (fun absent => ?_) nofun
    · cases Option.some.inj (written.symm.trans member)
      exact located
    · cases written.symm.trans absent
  · rw [uploading]
    exact fun forbidden => absurd (by decide) forbidden
  · exact fun _ error after stopped _ => failed error after (stopped.after quietly)
  · intro _ next after transitioned later nextHeld
    exact keeps_pure (uploaded receipt next after transitioned.state (quietly.trans later) nextHeld)

def IpfsStart (publisher : EvidencePublisher) (record : PublicationAttemptRecord) : Prop :=
  if publisher.ipfs = false then Permitted record.state .providerFailed
  else record.state = .readingBack ∨ Permitted record.state .uploading

theorem runIpfs_keeps (holds : Holds history record) (clean : Clean history) (run : CodeFor provider .ipfs history) :
    Keeps (Guard publisher digest provider) (Settles (publisher.IpfsStart record)) (publisher.runIpfs digest record).run
      history := by
  unfold runIpfs IpfsStart
  by_cases absent : publisher.ipfs = false
  · rw [if_pos absent, if_pos absent]
    exact fail_keeps holds clean run ⟨by decide, .inl (by decide)⟩
  · rw [if_neg absent, if_neg absent]
    by_cases reading : record.state = .readingBack
    · rw [if_pos reading]
      have expected : record.state = .readingBack ∨ Permitted record.state .uploading := .inl reading
      cases record.locator with
      | none => exact fail_ends holds clean run ⟨by decide, .inl (by decide)⟩ (by rw [reading]; decide) expected
      | some locator => exact verifyReadback_keeps expected holds clean run reading nofun (readIpfs_reads holds reading)
    · rw [if_neg reading]
      have expected : record.state = .readingBack ∨ Permitted record.state .uploading ↔ Permitted record.state .uploading :=
        or_iff_right reading
      rw [expected]
      refine .except_bind (transition_keeps holds (fun updated permitted transitioned =>
        ⟨.ipfs, run, transitioned.advances_plain permitted (by decide) rfl⟩) ⟨?_, ?_, ?_⟩)
      · exact fun forbidden => .unlawful returns_error forbidden (unlawful_next forbidden)
      · exact fun _ _ _ caught reason => .unaccepted returns_error (clean.quietly caught.quietly) (reason.resolve_right nofun)
      · intro permitted uploading after transitioned quietly held
        have again := run.mono fun _ member => quietly.mem member
        refine .outcome_bind (uploadIpfs_keeps held again transitioned.state (fun error final caught => ?_)
          fun receipt next final reads later nextHeld => ?_)
        · exact fail_ends caught.holds ((clean.quietly quietly).quietly caught.quietly)
            (again.mono fun _ member => caught.quietly.mem member)
            ⟨by decide, .inl (by decide)⟩ (by rw [transitioned.state]; decide) permitted
        · exact verifyReadback_keeps permitted nextHeld (clean.quietly (quietly.trans later))
            (again.mono fun _ member => later.mem member) reads nofun (readIpfs_reads nextHeld reads)

end EvidencePublisher

end Bnbera.Publication
