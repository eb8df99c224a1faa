import Bnbera.Payments.Frozen
import Bnbera.Payments.Rendering

namespace Bnbera.Payments

inductive ReplayState
  | inflight
  | consumed
  | rejected
deriving DecidableEq

def ReplayState.text : ReplayState → String
  | inflight => "inflight"
  | consumed => "consumed"
  | rejected => "rejected"

structure PaymentReplayReservation where
  replayKey : Digest
  attemptId : Uuid
  state : ReplayState
  expiresAtUnix : Int
  responseDigest : Option Digest
  createdAtUnix : Int
  updatedAtUnix : Int

abbrev PaymentReplayStore := OrderedMap Digest PaymentReplayReservation

/-- A payment credential, and the terms for which it pays. -/
structure ReplayTerms where
  rail : PaymentRail
  settlementNetwork : BscChainId
  settlementAsset : NonZeroAddress
  settlementDecimals : Within 0 255
  amountAtomic : PositiveDecimalUint
  recipient : NonZeroAddress
  method : PaymentMethod
  destination : String
  facilitatorEndpoint : String
  fixedEgressProfile : String
  nonce : String
  credentialDigest : String

/-- The object whose hash is the replay key. -/
structure ReplayPayload where
  terms : ReplayTerms
  paymentPinDigest : ContentDigest
  configurationDigest : ContentDigest
  authorizationDigest : Digest

def ReplayPayload.json (payload : ReplayPayload) : Json := .obj [
  ("rail", .str payload.terms.rail.text),
  ("settlementNetwork", payload.terms.settlementNetwork.json),
  ("settlementAsset", .text payload.terms.settlementAsset),
  ("settlementDecimals", .whole payload.terms.settlementDecimals),
  ("amountAtomic", .text payload.terms.amountAtomic),
  ("recipient", .text payload.terms.recipient),
  ("method", .str payload.terms.method.text),
  ("destination", .str payload.terms.destination),
  ("facilitatorEndpoint", .str payload.terms.facilitatorEndpoint),
  ("fixedEgressProfile", .str payload.terms.fixedEgressProfile),
  ("paymentPinDigest", .text payload.paymentPinDigest),
  ("configurationDigest", .text payload.configurationDigest),
  ("authorizationDigest", .str payload.authorizationDigest.text),
  ("nonce", .str payload.terms.nonce),
  ("credentialDigest", .str payload.terms.credentialDigest)]

/-- `contentDigestSchema.parse(value.toLowerCase())` -/
def normalizeReplayKey (value : String) : Except PaymentFailure Digest :=
  match TextFormat.normalize ⟨isDigest, isDigest_lower⟩ (lower value) with
  | some digest => .ok digest
  | none => .error (.zod [⟨[], "Expected a 32-byte hexadecimal digest"⟩])

theorem normalizeReplayKey_digest (digest : Digest) : normalizeReplayKey digest.text = .ok digest := by
  rw [normalizeReplayKey, digest.lowercase, TextFormat.normalize_text]

def replayDetected (message : String) : PaymentFailure := paymentError .replayDetected message

section
variable [UrlParser] [Sha256]

def replayPayload (attempt : PaymentAttempt) (validated : ValidatedPaymentAuthorization) :
    Except PaymentFailure ReplayPayload := do
  let trustedAttempt ← attempt.parse
  let trustedPin ← validatePaymentPin trustedAttempt.pin
  let trustedAuthorization ← validated.authorization.parse
  let trustedNonce ← parsed [] (nonceIssues [] (trim trustedAttempt.challenge.nonce)) (trim trustedAttempt.challenge.nonce)
  refuseIf (trustedAuthorization.attemptId ≠ trustedAttempt.attemptId ∨
      trustedAuthorization.challengeId ≠ trustedAttempt.challenge.challengeId ∨
      trustedAuthorization.challengeDigest ≠ trustedAttempt.challengeDigest)
    (paymentError .invalidAuthorization "Replay authorization is not bound to the payment attempt.")
  let destination ← normalizeUrl trustedPin.destination "payment destination"
  let facilitatorEndpoint ← normalizeUrl trustedPin.facilitatorEndpoint "facilitator endpoint"
  return {
    terms := {
      rail := trustedPin.rail
      settlementNetwork := trustedPin.settlementNetwork
      settlementAsset := trustedPin.settlementAsset.lowered
      settlementDecimals := trustedPin.settlementDecimals
      amountAtomic := trustedPin.amountAtomic
      recipient := trustedPin.recipient.lowered
      method := trustedPin.method
      destination := destination
      facilitatorEndpoint := facilitatorEndpoint
      fixedEgressProfile := trustedPin.fixedEgressProfile
      nonce := trustedNonce
      credentialDigest := lower trustedAuthorization.credentialDigest.text }
    paymentPinDigest := trustedAttempt.pinDigest
    configurationDigest := trustedPin.configurationDigest
    authorizationDigest := paymentAuthorizationDigest trustedAuthorization }

def paymentReplayKey (attempt : PaymentAttempt) (validated : ValidatedPaymentAuthorization) :
    Except PaymentFailure Digest := do
  let payload ← replayPayload attempt validated
  return canonicalSha256Hex payload.json

structure ReplayInput where
  attempt : PaymentAttempt
  authorization : ValidatedPaymentAuthorization
  expiresAtUnix : Int
  nowUnix : Int

def ReplayInput.entry (input : ReplayInput) (replayKey : Digest) : PaymentReplayReservation :=
  ⟨replayKey, input.attempt.attemptId, .inflight, input.expiresAtUnix, none, input.nowUnix, input.nowUnix⟩

/-- What `reserve` checks before it looks into its map; the schema keeps the id of the attempt. -/
def admitReservation (input : ReplayInput) : Except PaymentFailure Digest := do
  let key ← paymentReplayKey input.attempt input.authorization
  let replayKey ← normalizeReplayKey key.text
  let attempt ← input.attempt.parse
  refuseIf (input.expiresAtUnix ≠ attempt.challenge.expiresAtUnix.value) (paymentError .invalidExpiry
    "Replay reservation expiry must match the validated challenge expiry.")
  refuseIf (¬IsTrustedTime input.nowUnix ∨ ¬IsTrustedTime input.expiresAtUnix ∨ input.expiresAtUnix ≤ input.nowUnix)
    (paymentError .challengeExpired "A replay reservation must be created before its challenge expires.")
  return replayKey

/-- `reserve`; the new map is returned beside the reservation. -/
def PaymentReplayStore.reserve (entries : PaymentReplayStore) (input : ReplayInput) :
    Except PaymentFailure (PaymentReplayReservation × PaymentReplayStore) := do
  let replayKey ← admitReservation input
  match entries.get replayKey with
  | some existing =>
    refuseIf (existing.attemptId ≠ input.attempt.attemptId ∨ existing.state ≠ .inflight ∨
        existing.expiresAtUnix ≤ input.nowUnix)
      (replayDetected "Replay protection: this payment authorization has already been consumed or reserved.")
    return (existing, entries)
  | none => return (input.entry replayKey, entries.set replayKey (input.entry replayKey))

omit [UrlParser] [Sha256] in
def PaymentReplayStore.requireOwner (entries : PaymentReplayStore) (replayKey : Digest) (attemptId : Uuid) :
    Except PaymentFailure PaymentReplayReservation :=
  match entries.get replayKey with
  | none => .error (replayDetected "Payment authorization was not reserved.")
  | some existing => do
    refuseIf (existing.attemptId ≠ attemptId) (replayDetected "Payment authorization belongs to another attempt.")
    return existing

/-- The end of a reservation, as `markConsumed` and `markRejected` write it. -/
def PaymentReplayStore.mark (outcome : ReplayState) (entries : PaymentReplayStore) (attempt : PaymentAttempt)
    (validated : ValidatedPaymentAuthorization) (responseDigest : Option String) (nowUnix : Int) :
    Except PaymentFailure (PaymentReplayReservation × PaymentReplayStore) := do
  let response ← responseDigest.mapM normalizeReplayKey
  let trusted ← attempt.parse
  let key ← paymentReplayKey trusted validated
  let replayKey ← normalizeReplayKey key.text
  let existing ← entries.requireOwner replayKey trusted.attemptId
  if existing.state = outcome then
    refuseIf (existing.responseDigest ≠ response)
      (replayDetected s!"Replay protection: the {outcome.text} response digest does not match.")
    return (existing, entries)
  else
    refuseIf (existing.state ≠ .inflight) (replayDetected s!"Only an in-flight authorization can be {outcome.text}.")
    let next := { existing with state := outcome, responseDigest := response, updatedAtUnix := nowUnix }
    return (next, entries.set replayKey next)

def PaymentReplayStore.markConsumed (entries : PaymentReplayStore) (attempt : PaymentAttempt)
    (validated : ValidatedPaymentAuthorization) (responseDigest : String) (nowUnix : Int) :
    Except PaymentFailure (PaymentReplayReservation × PaymentReplayStore) :=
  entries.mark .consumed attempt validated (some responseDigest) nowUnix

def PaymentReplayStore.markRejected (entries : PaymentReplayStore) (attempt : PaymentAttempt)
    (validated : ValidatedPaymentAuthorization) (responseDigest : Option String) (nowUnix : Int) :
    Except PaymentFailure (PaymentReplayReservation × PaymentReplayStore) :=
  entries.mark .rejected attempt validated responseDigest nowUnix

inductive ReplayCall
  | reserve (input : ReplayInput)
  | markConsumed (attempt : PaymentAttempt) (authorization : ValidatedPaymentAuthorization) (responseDigest : String)
    (nowUnix : Int)
  | markRejected (attempt : PaymentAttempt) (authorization : ValidatedPaymentAuthorization)
    (responseDigest : Option String) (nowUnix : Int)

def ReplayCall.exec (entries : PaymentReplayStore) :
    ReplayCall → Except PaymentFailure (PaymentReplayReservation × PaymentReplayStore)
  | .reserve input => entries.reserve input
  | .markConsumed attempt authorization responseDigest nowUnix =>
    entries.markConsumed attempt authorization responseDigest nowUnix
  | .markRejected attempt authorization responseDigest nowUnix =>
    entries.markRejected attempt authorization responseDigest nowUnix

/-- The map behind a call; one that throws has not written. -/
def replayStep (entries : PaymentReplayStore) (call : ReplayCall) : PaymentReplayStore :=
  match call.exec entries with
  | .ok (_, after) => after
  | .error _ => entries

def replayAfter (calls : List ReplayCall) : PaymentReplayStore := calls.foldl replayStep .empty

/-- What the reservation of an attempt shows: the attempt, its authorization and what its key is the hash of. -/
structure Presentation where
  attemptId : Uuid
  authorization : PaymentAuthorization
  payload : ReplayPayload

def Presentation.key (presentation : Presentation) : Digest := canonicalSha256Hex presentation.payload.json

structure Shows (input : ReplayInput) (presentation : Presentation) : Prop where
  attemptId : presentation.attemptId = input.attempt.attemptId
  authorization : presentation.authorization = input.authorization.authorization.trimmed
  payload : replayPayload input.attempt input.authorization = .ok presentation.payload

structure Timely (input : ReplayInput) : Prop where
  expiry : input.expiresAtUnix = input.attempt.challenge.expiresAtUnix.value
  time : IsTrustedTime input.nowUnix
  live : input.nowUnix < input.expiresAtUnix

variable {attempt : PaymentAttempt} {validated : ValidatedPaymentAuthorization} {input : ReplayInput}
  {presentation : Presentation}

theorem replayPayload_eq_ok {payload : ReplayPayload} (shown : replayPayload attempt validated = .ok payload) :
    attempt.parse = .ok attempt.trimmed ∧ validated.authorization.trimmed.attemptId = attempt.attemptId ∧
      payload.authorizationDigest = paymentAuthorizationDigest validated.authorization.trimmed := by
  obtain ⟨trustedAttempt, read, shown⟩ := bind_eq_ok.mp shown
  obtain ⟨_, _, shown⟩ := bind_eq_ok.mp shown
  obtain ⟨trustedAuthorization, authorized, shown⟩ := bind_eq_ok.mp shown
  obtain ⟨_, _, shown⟩ := bind_eq_ok.mp shown
  obtain ⟨bound, shown⟩ := refuseIf_bind_eq_ok.mp shown
  obtain ⟨_, _, shown⟩ := bind_eq_ok.mp shown
  obtain ⟨_, _, shown⟩ := bind_eq_ok.mp shown
  obtain ⟨_, _, rfl⟩ := parsed_eq_ok.mp read
  obtain ⟨_, _, rfl⟩ := parsed_eq_ok.mp authorized
  cases shown
  exact ⟨read, not_not.mp (not_or.mp bound).1, rfl⟩

theorem admitReservation_eq_ok {replayKey : Digest} : admitReservation input = .ok replayKey ↔
    (∃ presentation, Shows input presentation ∧ replayKey = presentation.key) ∧ Timely input := by
  constructor
  · intro admitted
    obtain ⟨key, hashed, admitted⟩ := bind_eq_ok.mp admitted
    obtain ⟨payload, shown, hashed⟩ := bind_eq_ok.mp hashed
    cases hashed
    obtain ⟨normalized, normal, admitted⟩ := bind_eq_ok.mp admitted
    rw [normalizeReplayKey_digest] at normal
    cases normal
    obtain ⟨trusted, read, admitted⟩ := bind_eq_ok.mp admitted
    rw [(replayPayload_eq_ok shown).1] at read
    cases read
    obtain ⟨expiry, admitted⟩ := refuseIf_bind_eq_ok.mp admitted
    obtain ⟨live, admitted⟩ := refuseIf_bind_eq_ok.mp admitted
    cases admitted
    simp only [not_or, not_not, not_le] at live
    exact ⟨⟨⟨input.attempt.attemptId, _, payload⟩, ⟨rfl, rfl, shown⟩, rfl⟩, not_not.mp expiry, live.1, live.2.2⟩
  · rintro ⟨⟨presentation, shows, rfl⟩, timely⟩
    have read := (replayPayload_eq_ok shows.payload).1
    have expires : IsTrustedTime input.expiresAtUnix := by
      rw [timely.expiry]
      exact ⟨input.attempt.challenge.expiresAtUnix.low_le, input.attempt.challenge.expiresAtUnix.le_high⟩
    refine bind_eq_ok.mpr ⟨presentation.key, bind_eq_ok.mpr ⟨_, shows.payload, rfl⟩, bind_eq_ok.mpr ⟨_,
      normalizeReplayKey_digest _, bind_eq_ok.mpr ⟨_, read, refuseIf_bind_eq_ok.mpr ⟨not_not.mpr timely.expiry,
        refuseIf_bind_eq_ok.mpr ⟨?_, rfl⟩⟩⟩⟩⟩
    simp only [not_or, not_not, not_le]
    exact ⟨timely.time, expires, timely.live⟩

/-- What a call that returns has done to the map. -/
inductive ReplayWrites (entries : PaymentReplayStore) : ReplayCall → PaymentReplayStore → Prop
  | nothing (call : ReplayCall) : ReplayWrites entries call entries
  | reserved {input : ReplayInput} {presentation : Presentation} (shows : Shows input presentation)
      (timely : Timely input) (fresh : entries.get presentation.key = none) :
      ReplayWrites entries (.reserve input) (entries.set presentation.key (input.entry presentation.key))
  | marked (call : ReplayCall) {key : Digest} {existing : PaymentReplayReservation} {outcome : ReplayState}
      {responseDigest : Option Digest} {nowUnix : Int} (stored : entries.get key = some existing)
      (open_ : existing.state = .inflight) (ends : outcome ≠ .inflight) :
      ReplayWrites entries call (entries.set key
        { existing with state := outcome, responseDigest := responseDigest, updatedAtUnix := nowUnix })

variable {entries after : PaymentReplayStore} {result : PaymentReplayReservation}

theorem reserve_writes (done : entries.reserve input = .ok (result, after)) :
    ReplayWrites entries (.reserve input) after := by
  obtain ⟨replayKey, admitted, done⟩ := bind_eq_ok.mp done
  obtain ⟨⟨presentation, shows, rfl⟩, timely⟩ := admitReservation_eq_ok.mp admitted
  cases found : entries.get presentation.key with
  | some existing =>
    simp only [found] at done
    obtain ⟨_, done⟩ := refuseIf_bind_eq_ok.mp done
    cases done
    exact .nothing _
  | none =>
    simp only [found] at done
    cases done
    exact .reserved shows timely found

theorem mark_writes {outcome : ReplayState} (ends : outcome ≠ .inflight) {responseDigest : Option String} {nowUnix : Int}
    (call : ReplayCall) (done : entries.mark outcome attempt validated responseDigest nowUnix = .ok (result, after)) :
    ReplayWrites entries call after := by
  obtain ⟨response, _, done⟩ := bind_eq_ok.mp done
  obtain ⟨trusted, _, done⟩ := bind_eq_ok.mp done
  obtain ⟨key, _, done⟩ := bind_eq_ok.mp done
  obtain ⟨replayKey, _, done⟩ := bind_eq_ok.mp done
  obtain ⟨existing, owned, done⟩ := bind_eq_ok.mp done
  have stored : entries.get replayKey = some existing := by
    unfold PaymentReplayStore.requireOwner at owned
    split at owned
    · cases owned
    · obtain ⟨_, owned⟩ := refuseIf_bind_eq_ok.mp owned
      cases owned
      assumption
  split at done
  · obtain ⟨_, done⟩ := refuseIf_bind_eq_ok.mp done
    cases done
    exact .nothing _
  · obtain ⟨inflight, done⟩ := refuseIf_bind_eq_ok.mp done
    cases done
    exact .marked call stored (not_not.mp inflight) ends

theorem exec_writes {call : ReplayCall} (done : call.exec entries = .ok (result, after)) : ReplayWrites entries call after := by
  cases call with
  | reserve input => exact reserve_writes done
  | markConsumed attempt validated responseDigest nowUnix => exact mark_writes (by decide) _ done
  | markRejected attempt validated responseDigest nowUnix => exact mark_writes (by decide) _ done

theorem replayStep_writes (entries : PaymentReplayStore) (call : ReplayCall) :
    ReplayWrites entries call (replayStep entries call) := by
  unfold replayStep
  split
  · exact exec_writes ‹_›
  · exact .nothing call

/-- A reservation stays with its attempt, and one that has ended stays as it is. -/
structure Remains (before now : PaymentReplayReservation) : Prop where
  key : now.replayKey = before.replayKey
  attempt : now.attemptId = before.attemptId
  expiry : now.expiresAtUnix = before.expiresAtUnix
  created : now.createdAtUnix = before.createdAtUnix
  ended : before.state ≠ .inflight → now = before

omit [UrlParser] [Sha256] in
theorem Remains.refl (entry : PaymentReplayReservation) : Remains entry entry := ⟨rfl, rfl, rfl, rfl, fun _ => rfl⟩

omit [UrlParser] [Sha256] in
theorem Remains.trans {first second third : PaymentReplayReservation} (before : Remains first second)
    (behind : Remains second third) : Remains first third := by
  refine ⟨behind.key.trans before.key, behind.attempt.trans before.attempt, behind.expiry.trans before.expiry,
    behind.created.trans before.created, fun ended => ?_⟩
  have same := before.ended ended
  rw [← same] at ended
  exact (behind.ended ended).trans same

theorem ReplayWrites.remains {call : ReplayCall} (writes : ReplayWrites entries call after) {key : Digest}
    {entry : PaymentReplayReservation} (stored : entries.get key = some entry) :
    ∃ now, after.get key = some now ∧ Remains entry now := by
  cases writes with
  | nothing => exact ⟨entry, stored, .refl entry⟩
  | @reserved _ presentation shows timely fresh =>
    have apart : key ≠ presentation.key := by
      rintro rfl
      rw [fresh] at stored
      cases stored
    exact ⟨entry, (OrderedMap.get_set_ne apart).trans stored, .refl entry⟩
  | @marked _ other existing outcome responseDigest nowUnix found open_ ends =>
    by_cases same : key = other
    · subst same
      cases found.symm.trans stored
      exact ⟨_, OrderedMap.get_set_self, rfl, rfl, rfl, rfl, fun ended => absurd open_ ended⟩
    · exact ⟨entry, (OrderedMap.get_set_ne same).trans stored, .refl entry⟩

theorem foldl_remains (calls : List ReplayCall) {key : Digest} {entry : PaymentReplayReservation}
    (stored : entries.get key = some entry) : ∃ now, (calls.foldl replayStep entries).get key = some now ∧ Remains entry now := by
  induction calls generalizing entries entry with
  | nil => exact ⟨entry, stored, .refl entry⟩
  | cons call rest ih =>
    obtain ⟨next, found, remains⟩ := (replayStep_writes entries call).remains stored
    obtain ⟨now, last, remains'⟩ := ih found
    exact ⟨now, last, remains.trans remains'⟩

theorem replayAfter_append (earlier later : List ReplayCall) :
    replayAfter (earlier ++ later) = later.foldl replayStep (replayAfter earlier) := List.foldl_append

/-- The presentations that a run makes to `reserve` in time. -/
def Presented (calls : List ReplayCall) (presentation : Presentation) : Prop :=
  ∃ input, .reserve input ∈ calls ∧ Shows input presentation ∧ Timely input

/-- The presentations of a run for which `reserve` returns a reservation. -/
def Granted (calls : List ReplayCall) (presentation : Presentation) : Prop :=
  ∃ earlier input later result, calls = earlier ++ .reserve input :: later ∧
    (replayAfter earlier).reserve input = .ok result ∧ Shows input presentation

def SpentOnce (calls : List ReplayCall) : Prop :=
  ∀ first second, Granted calls first → Granted calls second → first.payload.terms = second.payload.terms →
    first.attemptId = second.attemptId

/-- A reservation that has ended stays as it is. -/
def EndsForGood (calls : List ReplayCall) : Prop :=
  ∀ earlier later key entry, calls = earlier ++ later → (replayAfter earlier).get key = some entry →
    entry.state ≠ .inflight → (replayAfter calls).get key = some entry

def OneAttemptEach (calls : List ReplayCall) : Prop :=
  ∀ first second, Presented calls first → Presented calls second → first.payload.terms = second.payload.terms →
    first.attemptId = second.attemptId

/-- The hash is injective on the keys and on the authorizations of a run. -/
def HashesApart (calls : List ReplayCall) : Prop :=
  ∀ first second, Presented calls first → Presented calls second →
    (first.key = second.key → canonicalizeJson first.payload.json = canonicalizeJson second.payload.json) ∧
      (paymentAuthorizationDigest first.authorization = paymentAuthorizationDigest second.authorization →
        canonicalizeJson first.authorization.json = canonicalizeJson second.authorization.json)

/-- A key belongs to one attempt for ever: no other attempt is granted it, and its reservation stays. -/
structure KeysOwned (calls : List ReplayCall) : Prop where
  granted : ∀ first second, Granted calls first → Granted calls second → first.key = second.key →
    first.attemptId = second.attemptId
  remains : ∀ earlier later key entry, calls = earlier ++ later → (replayAfter earlier).get key = some entry →
    ∃ now, (replayAfter calls).get key = some now ∧ Remains entry now

variable {calls : List ReplayCall} {first second : Presentation}

theorem endsForGood (calls : List ReplayCall) : EndsForGood calls := by
  rintro earlier later key entry rfl stored ended
  obtain ⟨now, found, remains⟩ := foldl_remains later stored
  rw [replayAfter_append, found, remains.ended ended]

theorem Shows.bound (shows : Shows input presentation) :
    presentation.authorization.attemptId = presentation.attemptId ∧
      presentation.payload.authorizationDigest = paymentAuthorizationDigest presentation.authorization := by
  obtain ⟨_, own, digest⟩ := replayPayload_eq_ok shows.payload
  rw [shows.authorization, shows.attemptId]
  exact ⟨own, digest⟩

theorem reserve_fresh (shows : Shows input presentation) (timely : Timely input)
    (fresh : entries.get presentation.key = none) : ∃ result, entries.reserve input = .ok result := by
  have admitted := admitReservation_eq_ok.mpr ⟨⟨presentation, shows, rfl⟩, timely⟩
  refine ⟨(input.entry presentation.key, entries.set presentation.key (input.entry presentation.key)),
    bind_eq_ok.mpr ⟨_, admitted, ?_⟩⟩
  simp only [fresh]
  rfl

/-- A reservation that is granted is stored under the key of its presentation, for its attempt. -/
theorem reserve_stores (shows : Shows input presentation) (done : entries.reserve input = .ok (result, after)) :
    Timely input ∧ ∃ entry, after.get presentation.key = some entry ∧ entry.attemptId = presentation.attemptId := by
  obtain ⟨replayKey, admitted, done⟩ := bind_eq_ok.mp done
  obtain ⟨⟨other, shows', rfl⟩, timely⟩ := admitReservation_eq_ok.mp admitted
  have payload : other.payload = presentation.payload := Except.ok.inj (shows'.payload.symm.trans shows.payload)
  have key : other.key = presentation.key := by
    rw [Presentation.key, payload]
    rfl
  refine ⟨timely, ?_⟩
  rw [key] at done
  cases found : entries.get presentation.key with
  | some existing =>
    simp only [found] at done
    obtain ⟨checked, done⟩ := refuseIf_bind_eq_ok.mp done
    cases done
    exact ⟨_, found, (not_not.mp (not_or.mp checked).1).trans shows.attemptId.symm⟩
  | none =>
    simp only [found] at done
    cases done
    exact ⟨_, OrderedMap.get_set_self, shows.attemptId.symm⟩

theorem Granted.stored (granted : Granted calls presentation) :
    ∃ entry, (replayAfter calls).get presentation.key = some entry ∧ entry.attemptId = presentation.attemptId := by
  obtain ⟨earlier, input, later, ⟨result, after⟩, rfl, done, shows⟩ := granted
  obtain ⟨_, entry, stored, own⟩ := reserve_stores shows done
  have stepped : replayStep (replayAfter earlier) (.reserve input) = after := by
    have same : (ReplayCall.reserve input).exec (replayAfter earlier) = .ok (result, after) := done
    rw [replayStep, same]
  rw [replayAfter_append, List.foldl_cons, stepped]
  obtain ⟨now, found, remains⟩ := foldl_remains later stored
  exact ⟨now, found, remains.attempt.trans own⟩

theorem Granted.presented (granted : Granted calls presentation) : Presented calls presentation := by
  obtain ⟨earlier, input, later, ⟨result, after⟩, rfl, done, shows⟩ := granted
  exact ⟨input, List.mem_append_right _ List.mem_cons_self, shows, (reserve_stores shows done).1⟩

theorem Granted.append (granted : Granted calls presentation) (more : List ReplayCall) :
    Granted (calls ++ more) presentation := by
  obtain ⟨earlier, input, later, result, rfl, done, shows⟩ := granted
  exact ⟨earlier, input, later ++ more, result, by simp, done, shows⟩

/-- Whatever is stored was granted to a presentation with that key. -/
theorem stored_granted {key : Digest} {entry : PaymentReplayReservation} (stored : (replayAfter calls).get key = some entry) :
    ∃ presentation, Granted calls presentation ∧ presentation.key = key := by
  induction calls using List.reverseRecOn generalizing entry with
  | nil => cases stored
  | append_singleton earlier call ih =>
    have step : replayAfter (earlier ++ [call]) = replayStep (replayAfter earlier) call := replayAfter_append _ _
    rw [step] at stored
    have old {entry : PaymentReplayReservation} (found : (replayAfter earlier).get key = some entry) :
        ∃ presentation, Granted (earlier ++ [call]) presentation ∧ presentation.key = key := by
      obtain ⟨presentation, granted, same⟩ := ih found
      exact ⟨presentation, granted.append [call], same⟩
    have writes := replayStep_writes (replayAfter earlier) call
    generalize replayStep (replayAfter earlier) call = after at writes stored
    cases writes with
    | nothing => exact old stored
    | @reserved _ presentation shows timely fresh =>
      by_cases same : key = presentation.key
      · obtain ⟨result, done⟩ := reserve_fresh shows timely fresh
        exact ⟨presentation, ⟨earlier, _, [], result, rfl, done, shows⟩, same.symm⟩
      · exact old ((OrderedMap.get_set_ne same).symm.trans stored)
    | @marked _ other existing outcome responseDigest nowUnix found open_ ends =>
      by_cases same : key = other
      · subst same
        exact old found
      · exact old ((OrderedMap.get_set_ne same).symm.trans stored)

/-- The first timely presentation of a key is granted. -/
theorem Presented.granted (presented : Presented calls presentation) :
    ∃ first, Granted calls first ∧ first.key = presentation.key := by
  obtain ⟨input, member, shows, timely⟩ := presented
  obtain ⟨earlier, later, rfl⟩ := List.append_of_mem member
  cases found : (replayAfter earlier).get presentation.key with
  | none =>
    obtain ⟨result, done⟩ := reserve_fresh shows timely found
    exact ⟨presentation, ⟨earlier, _, later, result, rfl, done, shows⟩, rfl⟩
  | some entry =>
    obtain ⟨first, granted, same⟩ := stored_granted found
    exact ⟨first, granted.append _, same⟩

omit [UrlParser] [Sha256] in
theorem PaymentAuthorization.wellFormed (authorization : PaymentAuthorization) : authorization.json.wellFormed = true := by
  simp [PaymentAuthorization.json, Json.wellFormed, wellFormedFields]

omit [UrlParser] [Sha256] in
theorem authorization_attempt {a b : PaymentAuthorization} (same : canonicalizeJson a.json = canonicalizeJson b.json) :
    a.attemptId = b.attemptId :=
  renders_text.2 _ _ (Option.some.inj (canonicalizeJson_field a.wellFormed b.wellFormed same "attemptId"))

omit [UrlParser] [Sha256] in
theorem ReplayPayload.wellFormed (payload : ReplayPayload) : payload.json.wellFormed = true := by
  simp [ReplayPayload.json, Json.wellFormed, wellFormedFields, renders_chainId.1]

omit [UrlParser] [Sha256] in
theorem payload_determined {a b : ReplayPayload} (same : canonicalizeJson a.json = canonicalizeJson b.json) :
    a.terms = b.terms ∧ a.authorizationDigest = b.authorizationDigest := by
  have field := canonicalizeJson_field a.wellFormed b.wellFormed same
  have rail := PaymentRail.text_injective _ _ (renders_str.2 _ _ (Option.some.inj (field "rail")))
  have network := renders_chainId.2 _ _ (Option.some.inj (field "settlementNetwork"))
  have asset := renders_text.2 _ _ (Option.some.inj (field "settlementAsset"))
  have decimals := (renders_whole (by decide)).2 _ _ (Option.some.inj (field "settlementDecimals"))
  have amount := renders_text.2 _ _ (Option.some.inj (field "amountAtomic"))
  have recipient := renders_text.2 _ _ (Option.some.inj (field "recipient"))
  have method := PaymentMethod.text_injective _ _ (renders_str.2 _ _ (Option.some.inj (field "method")))
  have destination := renders_str.2 _ _ (Option.some.inj (field "destination"))
  have facilitator := renders_str.2 _ _ (Option.some.inj (field "facilitatorEndpoint"))
  have egress := renders_str.2 _ _ (Option.some.inj (field "fixedEgressProfile"))
  have nonce := renders_str.2 _ _ (Option.some.inj (field "nonce"))
  have credential := renders_str.2 _ _ (Option.some.inj (field "credentialDigest"))
  have authorization := renders_str.2 _ _ (Option.some.inj (field "authorizationDigest"))
  refine ⟨?_, Normalized.ext authorization⟩
  rcases a with ⟨⟨⟩⟩
  rcases b with ⟨⟨⟩⟩
  simp_all only

/-- With a hash that is injective on the run, a key is that of one attempt and of one credential. -/
theorem HashesApart.same (apart : HashesApart calls) (one : Presented calls first) (other : Presented calls second)
    (same : first.key = second.key) : first.payload.terms = second.payload.terms ∧ first.attemptId = second.attemptId := by
  obtain ⟨keys, authorizations⟩ := apart first second one other
  obtain ⟨terms, digests⟩ := payload_determined (keys same)
  obtain ⟨_, _, shows, _⟩ := one
  obtain ⟨_, _, shows', _⟩ := other
  obtain ⟨own, digest⟩ := shows.bound
  obtain ⟨own', digest'⟩ := shows'.bound
  rw [digest, digest'] at digests
  exact ⟨terms, own.symm.trans ((authorization_attempt (authorizations digests)).trans own')⟩

theorem replay_keys_owned (calls : List ReplayCall) : KeysOwned calls where
  granted first second one other same := by
    obtain ⟨entry, stored, own⟩ := one.stored
    obtain ⟨entry', stored', own'⟩ := other.stored
    rw [same, stored'] at stored
    cases stored
    exact own.symm.trans own'
  remains earlier later key entry whole stored := by
    subst whole
    rw [replayAfter_append]
    exact foldl_remains later stored

/-- A credential is reserved for one attempt only in the runs that present it for one attempt only. -/
theorem replay_spent_once_iff (apart : HashesApart calls) : SpentOnce calls ∧ EndsForGood calls ↔ OneAttemptEach calls := by
  constructor
  · rintro ⟨spent, _⟩ first second one other terms
    obtain ⟨mine, granted, same⟩ := one.granted
    obtain ⟨yours, granted', same'⟩ := other.granted
    obtain ⟨left, attempt⟩ := apart.same granted.presented one same
    obtain ⟨right, attempt'⟩ := apart.same granted'.presented other same'
    rw [← attempt, ← attempt']
    exact spent mine yours granted granted' (left.trans (terms.trans right.symm))
  · intro each
    exact ⟨fun first second one other terms => each first second one.presented other.presented terms, endsForGood calls⟩

end

section
attribute [local instance] plainUrls

section
variable [Sha256] {attemptId : Uuid}

omit [Sha256] in
theorem challengeName : PlainIdentifier "challenge-1" := .ofList (by decide)

theorem presentedAuthorization_trimmed :
    (sampleAuthorization attemptId payer).trimmed = sampleAuthorization attemptId payer := by
  simp only [PaymentAuthorization.trimmed, sampleAuthorization, challengeName.trimmed]

theorem presentedAuthorization_parse :
    (sampleAuthorization attemptId payer).parse = .ok (sampleAuthorization attemptId payer) := by
  refine parsed_eq_ok.mpr ⟨fun url member => (nomatch member), ?_, presentedAuthorization_trimmed.symm⟩
  rw [presentedAuthorization_trimmed]
  exact challengeName.issues _

theorem presentedAuthorization_valid : validateAuthorization (sampleAuthorization attemptId payer) (sampleChallenge "challenge-1")
    samplePin 120 = .ok (sampleAuthorization attemptId payer) := by
  have payerText : payer.lowered = payer := Checked.ext (lower_ofList (by decide))
  have credential : lower samplePin.configurationDigest.text = samplePin.configurationDigest.text :=
    (b402SellerConfigurationDigest sampleConfiguration).lowercase
  refine bind_eq_ok.mpr ⟨_, safeParse_eq_ok.mpr presentedAuthorization_parse, bind_eq_ok.mpr ⟨_,
    validateChallenge_sample challengeName (by decide) (by decide), refuseIf_bind_eq_ok.mpr ⟨not_or.mpr ⟨not_not.mpr rfl,
      not_not.mpr rfl⟩, refuseIf_bind_eq_ok.mpr ⟨?_, ?_⟩⟩⟩⟩
  · exact not_or.mpr ⟨show ¬(110 : Int) < 100 by decide, not_or.mpr ⟨show ¬(200 : Int) < 110 by decide,
      show ¬(110 : Int) ≤ 0 by decide⟩⟩
  · simp only [PaymentAuthorization.normalized, sampleAuthorization, payerText, credential]
    rfl

def presentedPayload (attemptId : Uuid) : ReplayPayload where
  terms := {
    rail := .x402B402
    settlementNetwork := .testnet
    settlementAsset := samplePin.settlementAsset
    settlementDecimals := samplePin.settlementDecimals
    amountAtomic := samplePin.amountAtomic
    recipient := samplePin.recipient
    method := .eip3009
    destination := sampleRoute
    facilitatorEndpoint := samplePin.facilitatorEndpoint
    fixedEgressProfile := "egress-1"
    nonce := "nonce-0001"
    credentialDigest := samplePin.configurationDigest.text }
  paymentPinDigest := .ofDigest (paymentPinDigest samplePin)
  configurationDigest := samplePin.configurationDigest
  authorizationDigest := paymentAuthorizationDigest (sampleAuthorization attemptId payer)

/-- The first presentation of a credential, at 120, by the attempt of that id. -/
def presentation (attemptId : Uuid) : Presentation :=
  ⟨attemptId, sampleAuthorization attemptId payer, presentedPayload attemptId⟩

def presenting (attemptId : Uuid) : ReplayInput where
  attempt := sampleAttempt attemptId "payment-1" "challenge-1" .challenged
  authorization := ⟨sampleAuthorization attemptId payer, _, _, _, _, presentedAuthorization_valid⟩
  expiresAtUnix := 200
  nowUnix := 120

def presents (attemptId : Uuid) : ReplayCall := .reserve (presenting attemptId)

theorem presenting_shows : Shows (presenting attemptId) (presentation attemptId) := by
  have key : PlainKey "payment-1" := .ofList (by decide) (by decide) (by decide)
  have nonce : PlainIdentifier "nonce-0001" := .ofList (by decide)
  have long : 8 ≤ (utf16Units "nonce-0001").length := isPlain_long (by decide) (by decide)
  have route := parse_route
  have credential : lower samplePin.configurationDigest.text = samplePin.configurationDigest.text :=
    (b402SellerConfigurationDigest sampleConfiguration).lowercase
  have lowered := sampleConfiguration_lowered
  refine ⟨rfl, presentedAuthorization_trimmed.symm, ?_⟩
  refine bind_eq_ok.mpr ⟨_, sampleAttempt_parse key challengeName, bind_eq_ok.mpr ⟨_, validatePaymentPin_sample,
    bind_eq_ok.mpr ⟨_, presentedAuthorization_parse, bind_eq_ok.mpr ⟨"nonce-0001", ?_, refuseIf_bind_eq_ok.mpr
      ⟨not_or.mpr ⟨not_not.mpr rfl, not_or.mpr ⟨not_not.mpr rfl, not_not.mpr rfl⟩⟩, bind_eq_ok.mpr ⟨sampleRoute,
        normalizeUrl_eq_ok.mpr ⟨route.2.2.2.2.1, route.2.2.1.symm⟩, bind_eq_ok.mpr ⟨samplePin.facilitatorEndpoint,
          normalizeUrl_eq_ok.mpr ⟨route.2.2.2.2.2.1, route.2.2.2.1.symm⟩, ?_⟩⟩⟩⟩⟩⟩⟩
  · refine parsed_eq_ok.mpr ⟨fun url member => (nomatch member), ?_, nonce.trimmed.symm⟩
    exact nonce.trimmed.symm ▸ nonce.nonceIssues long []
  · have asset : samplePin.settlementAsset.lowered = samplePin.settlementAsset := lowered.1
    have recipient : samplePin.recipient.lowered = samplePin.recipient := lowered.2
    simp only [asset, recipient]
    simp only [sampleAuthorization, credential]
    rfl

theorem presenting_timely : Timely (presenting attemptId) :=
  ⟨rfl, (by decide : IsTrustedTime 120), (by decide : (120 : Int) < 200)⟩

theorem presented_sample {ids : List Uuid} {shown : Presentation} (presented : Presented (ids.map presents) shown) :
    ∃ attemptId ∈ ids, shown = presentation attemptId := by
  obtain ⟨input, member, shows, _⟩ := presented
  obtain ⟨attemptId, there, same⟩ := List.mem_map.mp member
  cases same
  obtain ⟨own, authorization, payload⟩ := shows
  have sample : Shows (presenting attemptId) (presentation attemptId) := presenting_shows
  refine ⟨attemptId, there, ?_⟩
  rcases shown with ⟨shownId, shownAuthorization, shownPayload⟩
  cases own
  cases authorization.trans sample.authorization.symm
  cases Except.ok.inj (payload.symm.trans sample.payload)
  rfl

theorem presentation_presented {ids : List Uuid} (member : attemptId ∈ ids) :
    Presented (ids.map presents) (presentation attemptId) :=
  ⟨_, List.mem_map_of_mem member, presenting_shows, presenting_timely⟩

/-- Where the hash tells two attempts apart it is injective on their presentations, and both reserve the credential. -/
theorem presented_twice {other : Uuid} (attempts : attemptId ≠ other)
    (keys : (presentation attemptId).key ≠ (presentation other).key)
    (authorizations : paymentAuthorizationDigest (presentation attemptId).authorization ≠
      paymentAuthorizationDigest (presentation other).authorization) :
    HashesApart ([attemptId, other].map presents) ∧ ¬SpentOnce ([attemptId, other].map presents) := by
  have apart : HashesApart ([attemptId, other].map presents) := by
    intro first second one two
    obtain ⟨left, member, rfl⟩ := presented_sample one
    obtain ⟨right, member', rfl⟩ := presented_sample two
    simp only [List.mem_cons, List.not_mem_nil, or_false] at member member'
    rcases member with rfl | rfl <;> rcases member' with rfl | rfl
    · exact ⟨fun _ => rfl, fun _ => rfl⟩
    · exact ⟨fun same => absurd same keys, fun same => absurd same authorizations⟩
    · exact ⟨fun same => absurd same.symm keys, fun same => absurd same.symm authorizations⟩
    · exact ⟨fun _ => rfl, fun _ => rfl⟩
  refine ⟨apart, fun spent => attempts ?_⟩
  have left : attemptId ∈ [attemptId, other] := List.mem_cons_self
  have right : other ∈ [attemptId, other] := List.mem_cons_of_mem _ List.mem_cons_self
  obtain ⟨mine, granted, same⟩ := (presentation_presented left).granted
  obtain ⟨yours, granted', same'⟩ := (presentation_presented right).granted
  obtain ⟨terms, attempt⟩ := apart.same granted.presented (presentation_presented left) same
  obtain ⟨terms', attempt'⟩ := apart.same granted'.presented (presentation_presented right) same'
  exact attempt.symm.trans ((spent mine yours granted granted' (terms.trans terms'.symm)).trans attempt')

end

def secondId : Uuid := ⟨_, secondUuid_ok⟩

def anyDigest : Digest := nullSha256.sha256Hex ""

def shownDigest : Digest :=
  ⟨"eeeeeeeeeeeeeeeeeeeeeeeeeeeeeeeeeeeeeeeeeeeeeeeeeeeeeeeeeeeeeeee", by decide +kernel, by decide +kernel⟩

def firstAuthorization : String := canonicalizeJson (@sampleAuthorization _ nullSha256 sampleId payer).json

def firstPayload : String :=
  canonicalizeJson { @presentedPayload nullSha256 sampleId with authorizationDigest := shownDigest }.json

/-- A hash that has one value on the texts of the first presentation and another value on all other texts. -/
@[reducible] def pairSha256 : Sha256 where
  sha256Hex text := if text = firstAuthorization ∨ text = firstPayload then shownDigest else anyDigest

section
attribute [local instance] pairSha256

theorem pair_value (value : Json) : canonicalSha256Hex value =
    if canonicalizeJson value = firstAuthorization ∨ canonicalizeJson value = firstPayload then shownDigest else anyDigest := rfl

theorem pair_other {fields : List (String × Json)} (wellFormed : (Json.obj fields).wellFormed = true)
    (attempt : fieldOf fields "attemptId" = none) (authorization : fieldOf fields "authorizationDigest" = none) :
    canonicalSha256Hex (.obj fields) = anyDigest := by
  refine (pair_value _).trans (if_neg (not_or.mpr ⟨fun same => ?_, fun same => ?_⟩))
  · have field := canonicalizeJson_field wellFormed (PaymentAuthorization.wellFormed _) same "attemptId"
    rw [attempt] at field
    exact nomatch field
  · have field := canonicalizeJson_field wellFormed (ReplayPayload.wellFormed _) same "authorizationDigest"
    rw [authorization] at field
    exact nomatch field

theorem pair_configuration : b402SellerConfigurationDigest sampleConfiguration = anyDigest := by
  have text : Renders (Json.ofOption Json.str) := renders_str.ofOption fun _ => Nat.succ_ne_zero _
  exact pair_other (by simp [Json.wellFormed, wellFormedFields, renders_chainId.1, text.1]) rfl rfl

theorem pair_pin : samplePin = @samplePin _ nullSha256 := by
  unfold samplePin
  rw [pair_configuration]
  rfl

theorem pair_pinDigest : paymentPinDigest samplePin = anyDigest :=
  pair_other (renders_pin.1 _) rfl rfl

theorem pair_challenge : (sampleChallenge "challenge-1").challengeDigest =
    (@sampleChallenge _ nullSha256 "challenge-1").challengeDigest := by
  have terms : challengeUnsignedDigest (sampleTerms "challenge-1") = anyDigest :=
    pair_other (by simp [PaymentChallenge.unsignedFields, Json.wellFormed, wellFormedFields, renders_chainId.1]) rfl rfl
  unfold sampleChallenge
  rw [terms]
  rfl

theorem pair_authorization (attemptId : Uuid) :
    sampleAuthorization attemptId payer = @sampleAuthorization _ nullSha256 attemptId payer := by
  simp only [sampleAuthorization, pair_challenge, pair_pin]

theorem pair_payload (attemptId : Uuid) : presentedPayload attemptId =
    { @presentedPayload nullSha256 attemptId with
      authorizationDigest := paymentAuthorizationDigest (sampleAuthorization attemptId payer) } := by
  unfold presentedPayload
  rw [pair_pinDigest, pair_pin]
  rfl

theorem pair_first : paymentAuthorizationDigest (sampleAuthorization sampleId payer) = shownDigest := by
  rw [pair_authorization, paymentAuthorizationDigest, pair_value]
  exact if_pos (Or.inl rfl)

theorem pair_second : paymentAuthorizationDigest (sampleAuthorization secondId payer) = anyDigest := by
  refine (pair_value _).trans (if_neg (not_or.mpr ⟨fun same => ?_, fun same => ?_⟩))
  · have attempt := authorization_attempt same
    exact absurd (congrArg Checked.text attempt) (by decide)
  · have field := canonicalizeJson_field (PaymentAuthorization.wellFormed _) (ReplayPayload.wellFormed _) same "attemptId"
    exact nomatch field

/-- One credential, two attempts, two reservations. -/
theorem replay_spent_twice : HashesApart ([sampleId, secondId].map presents) ∧
    ¬SpentOnce ([sampleId, secondId].map presents) := by
  have digests : shownDigest ≠ anyDigest := fun same => absurd (congrArg (·.text) same) (by decide)
  refine presented_twice (fun same => absurd (congrArg Checked.text same) (by decide)) ?_ ?_
  · have first : (presentation sampleId).key = shownDigest := by
      unfold Presentation.key presentation
      rw [pair_payload, pair_first, pair_value]
      exact if_pos (Or.inr rfl)
    have second : (presentation secondId).key = anyDigest := by
      unfold Presentation.key presentation
      rw [pair_payload, pair_second]
      refine (pair_value _).trans (if_neg (not_or.mpr ⟨fun same => ?_, fun same => ?_⟩))
      · have field := canonicalizeJson_field (ReplayPayload.wellFormed _) (PaymentAuthorization.wellFormed _) same "attemptId"
        exact nomatch field
      · exact digests (payload_determined same).2.symm
    rw [first, second]
    exact digests
  · unfold presentation
    rw [pair_first, pair_second]
    exact digests

/-- One attempt that reserves its credential twice. -/
theorem replay_spent_once_iff_repeated : SpentOnce ([sampleId, sampleId].map presents) ∧
    EndsForGood ([sampleId, sampleId].map presents) := by
  have one {shown : Presentation} (presented : Presented ([sampleId, sampleId].map presents) shown) :
      shown = presentation sampleId := by
    obtain ⟨attemptId, member, rfl⟩ := presented_sample presented
    simp only [List.mem_cons, List.not_mem_nil, or_false, or_self] at member
    rw [member]
  refine (replay_spent_once_iff fun first second left right => ?_).mpr fun first second left right _ => ?_
  · rw [one left, one right]
    exact ⟨fun _ => rfl, fun _ => rfl⟩
  · rw [one left, one right]

end

end

end Bnbera.Payments
