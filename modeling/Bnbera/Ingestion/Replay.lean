import Bnbera.Delimited
import Bnbera.Ingestion.Reputation

/-! The projection of reputation events is their replay in the order of the chain. -/

namespace Bnbera.Ingestion

open Delimited

structure FeedbackId where
  reputationRegistry : NormalAddress
  clientAddress : NormalAddress
  feedbackIndex : Checked isUint64
deriving DecidableEq

def FeedbackId.key (id : FeedbackId) : String := feedbackKey id.reputationRegistry id.clientAddress id.feedbackIndex

def ReputationFeedbackEvent.feedback (event : ReputationFeedbackEvent) : FeedbackId :=
  ⟨event.reputationRegistry, event.clientAddress, event.feedbackIndex⟩

def ReputationFeedback.feedback (shown : ReputationFeedback) : FeedbackId :=
  ⟨shown.reputationRegistry, shown.clientAddress, shown.feedbackIndex⟩

theorem address_colonless (address : NormalAddress) : ':' ∉ address.text.toList := by
  have accepted := address.accepted
  rw [isNormalAddress, Bool.and_eq_true] at accepted
  obtain ⟨digits, same, _, hex⟩ := isEvmAddress_iff.mp accepted.1
  have outside : ':' ∉ digits := fun member => absurd (List.all_eq_true.mp hex _ member) (by decide)
  rw [same]
  simp [outside]

theorem FeedbackId.key_injective {id other : FeedbackId} (same : id.key = other.key) : id = other := by
  have chars := congrArg String.toList same
  simp only [FeedbackId.key, feedbackKey, String.toList_append, List.append_assoc, String.reduceToList, List.cons_append,
    List.nil_append] at chars
  obtain ⟨registry, rest⟩ := cut_of_notMem (address_colonless _) (address_colonless _) chars
  obtain ⟨client, index⟩ := cut_of_notMem (address_colonless _) (address_colonless _) rest
  obtain ⟨_, _, _⟩ := id
  obtain ⟨_, _, _⟩ := other
  cases Checked.ext (String.toList_injective registry)
  cases Checked.ext (String.toList_injective client)
  cases Checked.ext (String.toList_injective index)
  rfl

theorem erc8004IdentityKey_injective {identity other : Erc8004Identity}
    (same : erc8004IdentityKey identity = erc8004IdentityKey other) (chain : identity.chainId = other.chainId) :
    identity = other := by
  obtain ⟨space, chainId, registry, agent⟩ := identity
  obtain ⟨space', chainId', registry', agent'⟩ := other
  cases chain
  have colonless : ∀ space : Checked isNamespace, ':' ∉ space.text.toList := by
    intro space member
    have accepted := space.accepted
    rw [isNamespace, Bool.and_eq_true] at accepted
    exact absurd (List.all_eq_true.mp accepted.2 _ member) (by decide)
  have chars := congrArg String.toList same
  simp only [erc8004IdentityKey, String.toList_append, List.append_assoc, String.reduceToList, List.cons_append,
    List.nil_append] at chars
  obtain ⟨spaces, rest⟩ := cut_of_notMem (colonless _) (colonless _) chars
  have rest := List.append_cancel_left rest
  obtain ⟨registries, agents⟩ := cut_of_notMem (address_colonless _) (address_colonless _) (List.cons.inj rest).2
  cases Checked.ext (String.toList_injective spaces)
  cases Checked.ext (String.toList_injective registries)
  cases Checked.ext (String.toList_injective agents)
  rfl

/-- The documented behaviour of `localeCompare`: an order, in which no two hashes are the same. -/
structure LawfulCollation [Collation] : Prop where
  order : Std.TransCmp Collation.localeCompare
  hash : ∀ {a b : Hash}, Collation.localeCompare a.text b.text = .eq → a = b

def ReputationFeedbackEvent.Counts (event : ReputationFeedbackEvent) (identity : Erc8004Identity) : Prop :=
  event.identity = identity ∧ event.confirmationState = .canonical

def SamePosition (a b : ReputationFeedbackEvent) : Prop :=
  a.blockNumber = b.blockNumber ∧ a.logIndex = b.logIndex ∧ a.transactionHash = b.transactionHash ∧ a.blockHash = b.blockHash

def OneEventPerPosition (events : List ReputationFeedbackEvent) (identity : Erc8004Identity) : Prop :=
  ∀ a ∈ events, ∀ b ∈ events, a.Counts identity → b.Counts identity → SamePosition a b → a = b

section
variable {α : Type} {cmp : α → α → Ordering} [Std.TransCmp cmp] {a b c : α}

theorem ne_gt_trans (first : cmp a b ≠ .gt) (second : cmp b c ≠ .gt) : cmp a c ≠ .gt := by
  have le := Ordering.ne_gt_iff_isLE.mp first
  exact Ordering.ne_gt_iff_isLE.mpr (Std.TransCmp.isLE_trans le (Ordering.ne_gt_iff_isLE.mp second))

theorem eq_of_ne_gt (first : cmp a b ≠ .gt) (second : cmp b a ≠ .gt) : cmp a b = .eq := by
  exact Std.OrientedCmp.isLE_antisymm (Ordering.ne_gt_iff_isLE.mp first) (Ordering.ne_gt_iff_isLE.mp second)

theorem sorted_insertionSort (items : List α) :
    (items.insertionSort fun a b => cmp a b ≠ .gt).Pairwise fun a b => cmp a b ≠ .gt := by
  have : Std.Total fun a b => cmp a b ≠ .gt := by
    refine ⟨fun a b => ?_⟩
    by_cases after : cmp a b = .gt
    · right
      rw [Std.OrientedCmp.gt_iff_lt.mp after]
      decide
    · exact .inl after
  have : IsTrans α fun a b => cmp a b ≠ .gt := ⟨fun _ _ _ => ne_gt_trans⟩
  exact List.pairwise_insertionSort _ _

end

section
variable [Collation]

theorem LawfulCollation.position (lawful : LawfulCollation) : Std.TransCmp compareEventPosition := by
  have := lawful.order
  have text : ∀ field : ReputationFeedbackEvent → String, Std.TransCmp fun a b => Collation.localeCompare (field a) (field b) :=
    fun field => { eq_swap := Std.OrientedCmp.eq_swap, isLE_trans := Std.TransCmp.isLE_trans }
  have transaction := text (·.transactionHash.text)
  have hash := text (·.blockHash.text)
  exact inferInstanceAs (Std.TransCmp (compareLex (compareOn fun event : ReputationFeedbackEvent => event.blockNumber.value)
    (compareLex (compareOn (·.logIndex.value)) (compareLex (fun a b =>
      Collation.localeCompare a.transactionHash.text b.transactionHash.text) fun a b =>
        Collation.localeCompare a.blockHash.text b.blockHash.text))))

theorem samePosition_of_eq (lawful : LawfulCollation) {a b : ReputationFeedbackEvent} (same : compareEventPosition a b = .eq) :
    SamePosition a b := by
  simp only [compareEventPosition, Ordering.then_eq_eq, compare_eq_iff_eq] at same
  obtain ⟨block, log, transaction, hash⟩ := same
  exact ⟨Within.ext block, Within.ext log, lawful.hash transaction, lawful.hash hash⟩

variable {events other : List ReputationFeedbackEvent} {identity : Erc8004Identity}

theorem mem_scopedEvents {event : ReputationFeedbackEvent} :
    event ∈ scopedEvents events identity ↔ event ∈ events ∧ event.Counts identity := by
  simp only [scopedEvents, List.mem_insertionSort, List.mem_filter, decide_eq_true_eq, ReputationFeedbackEvent.Counts]
  constructor
  · rintro ⟨⟨⟨member, chain⟩, key⟩, canonical⟩
    exact ⟨member, erc8004IdentityKey_injective key chain, canonical⟩
  · rintro ⟨member, rfl, canonical⟩
    exact ⟨⟨⟨member, rfl⟩, rfl⟩, canonical⟩

theorem OneEventPerPosition.eq (single : OneEventPerPosition events identity) (lawful : LawfulCollation)
    {a b : ReputationFeedbackEvent} (inScope : a ∈ scopedEvents events identity) (inScope' : b ∈ scopedEvents events identity)
    (same : compareEventPosition a b = .eq) : a = b := by
  obtain ⟨member, counts⟩ := mem_scopedEvents.mp inScope
  obtain ⟨member', counts'⟩ := mem_scopedEvents.mp inScope'
  exact single a member b member' counts counts' (samePosition_of_eq lawful same)

theorem scopedEvents_perm (lawful : LawfulCollation) (single : OneEventPerPosition events identity)
    (perm : (other.filter fun event => event.confirmationState = .canonical).Perm
      (events.filter fun event => event.confirmationState = .canonical)) :
    scopedEvents other identity = scopedEvents events identity := by
  have order := lawful.position
  have same : (scopedEvents other identity).Perm (scopedEvents events identity) := by
    refine (List.perm_insertionSort _ _).trans (.trans ?_ (List.perm_insertionSort _ _).symm)
    have swap : ∀ list : List ReputationFeedbackEvent, ((list.filter fun event =>
        event.identity.chainId = identity.chainId).filter
        fun event => erc8004IdentityKey event.identity = erc8004IdentityKey identity).filter
          (fun event => event.confirmationState = .canonical) =
        ((list.filter fun event => event.confirmationState = .canonical).filter fun event =>
          event.identity.chainId = identity.chainId).filter
            fun event => erc8004IdentityKey event.identity = erc8004IdentityKey identity := by
      intro list
      rw [List.filter_comm _ _ (list.filter _), List.filter_comm _ _ list]
    rw [swap, swap]
    exact (perm.filter _).filter _
  refine same.eq_of_pairwise (fun a b member member' le ge => ?_) (sorted_insertionSort _) (sorted_insertionSort _)
  exact single.eq lawful (same.mem_iff.mp member) member' (eq_of_ne_gt le ge)

end

section
variable {events : List ReputationFeedbackEvent} {event submission : ReputationFeedbackEvent} {key : String}

def latest (type : ReputationEventType) (key : String) (events : List ReputationFeedbackEvent) :
    Option ReputationFeedbackEvent :=
  (events.filter fun event => event.eventType = type ∧ event.key = key).getLast?

theorem latest_snoc {type : ReputationEventType} (fits : event.eventType = type ∧ event.key = key) :
    latest type key (events ++ [event]) = some event := by
  rw [latest, List.filter_append, List.filter_singleton, decide_eq_true fits]
  exact List.getLast?_concat

theorem latest_snoc_of_not {type : ReputationEventType} (other : ¬(event.eventType = type ∧ event.key = key)) :
    latest type key (events ++ [event]) = latest type key events := by
  rw [latest, List.filter_append, List.filter_singleton, decide_eq_false other]
  exact congrArg List.getLast? (List.append_nil _)

theorem latest_mem {type : ReputationEventType} (last : latest type key events = some event) :
    event ∈ events ∧ event.eventType = type ∧ event.key = key := by
  have member := List.mem_of_getLast? last
  rw [List.mem_filter, decide_eq_true_eq] at member
  exact member

theorem ReputationMaps.add_submits {maps : ReputationMaps} (kind : event.eventType = .newFeedback) :
    maps.add event = ⟨maps.feedback.set event.key event, maps.revocations⟩ := by
  rw [add, kind]

theorem ReputationMaps.add_revokes {maps : ReputationMaps} (kind : event.eventType = .feedbackRevoked) :
    maps.add event = ⟨maps.feedback, maps.revocations.set event.key event⟩ := by
  rw [add, kind]

theorem maps_get : (events.foldl ReputationMaps.add ⟨.empty, .empty⟩).feedback.get key = latest .newFeedback key events ∧
    (events.foldl ReputationMaps.add ⟨.empty, .empty⟩).revocations.get key = latest .feedbackRevoked key events := by
  induction events using List.reverseRecOn with
  | nil => exact ⟨rfl, rfl⟩
  | append_singleton events event ih =>
    rw [List.foldl_append, List.foldl_cons, List.foldl_nil]
    cases kind : event.eventType with
    | newFeedback =>
      have apart : ¬(event.eventType = .feedbackRevoked ∧ event.key = key) := fun both => nomatch kind.symm.trans both.1
      rw [ReputationMaps.add_submits kind, latest_snoc_of_not apart]
      refine ⟨?_, ih.2⟩
      by_cases same : key = event.key
      · rw [latest_snoc ⟨kind, same.symm⟩, same, OrderedMap.get_set_self]
      · rw [latest_snoc_of_not (fun both => same both.2.symm), OrderedMap.get_set_ne same, ih.1]
    | feedbackRevoked =>
      have apart : ¬(event.eventType = .newFeedback ∧ event.key = key) := fun both => nomatch kind.symm.trans both.1
      rw [ReputationMaps.add_revokes kind, latest_snoc_of_not apart]
      refine ⟨ih.1, ?_⟩
      by_cases same : key = event.key
      · rw [latest_snoc ⟨kind, same.symm⟩, same, OrderedMap.get_set_self]
      · rw [latest_snoc_of_not (fun both => same both.2.symm), OrderedMap.get_set_ne same, ih.2]

theorem latest_exists {type : ReputationEventType} (member : event ∈ events) (kind : event.eventType = type)
    (same : event.key = key) : ∃ last, latest type key events = some last := by
  have listed : event ∈ events.filter fun event => event.eventType = type ∧ event.key = key := by
    rw [List.mem_filter]
    exact ⟨member, decide_eq_true ⟨kind, same⟩⟩
  cases found : latest type key events with
  | none =>
    rw [List.getLast?_eq_none_iff.mp found] at listed
    cases listed
  | some last => exact ⟨last, rfl⟩

theorem key_of_feedback {id : FeedbackId} (same : event.feedback = id) : event.key = id.key := by
  cases same
  rfl

theorem feedback_of_key {id : FeedbackId} (same : event.key = id.key) : event.feedback = id := by
  have keys : event.feedback.key = id.key := same
  exact FeedbackId.key_injective keys

abbrev Standing := FeedbackId → Option (ReputationFeedbackEvent × Option ReputationFeedbackEvent)

def replayEvent (standing : Standing) (event : ReputationFeedbackEvent) : Standing :=
  match event.eventType with
  | .newFeedback => Function.update standing event.feedback (some (event, none))
  | .feedbackRevoked => Function.update standing event.feedback
      ((standing event.feedback).map fun stands => (stands.1, some event))

theorem replayEvent_submits {standing : Standing} (kind : event.eventType = .newFeedback) :
    replayEvent standing event event.feedback = some (event, none) := by
  rw [replayEvent, kind]
  exact Function.update_self _ _ _

theorem replayEvent_revokes {standing : Standing} (kind : event.eventType = .feedbackRevoked) :
    replayEvent standing event event.feedback = (standing event.feedback).map fun stands => (stands.1, some event) := by
  rw [replayEvent, kind]
  exact Function.update_self _ _ _

theorem replayEvent_other {standing : Standing} {id : FeedbackId} (apart : event.feedback ≠ id) :
    replayEvent standing event id = standing id := by
  unfold replayEvent
  cases event.eventType with
  | newFeedback => exact Function.update_of_ne (Ne.symm apart) _ _
  | feedbackRevoked => exact Function.update_of_ne (Ne.symm apart) _ _

def replay [Collation] (events : List ReputationFeedbackEvent) (identity : Erc8004Identity) : Standing :=
  (scopedEvents events identity).foldl replayEvent fun _ => none

variable [Collation]

theorem latest_after {type : ReputationEventType} (sorted : events.Pairwise fun a b => compareEventPosition a b ≠ .gt)
    (lawful : LawfulCollation) (last : latest type key events = some event) {other : ReputationFeedbackEvent}
    (member : other ∈ events) (kind : other.eventType = type) (same : other.key = key) :
    compareEventPosition other event ≠ .gt := by
  have order := lawful.position
  obtain ⟨front, split⟩ := List.getLast?_eq_some_iff.mp last
  have inSplit : other ∈ front ++ [event] := by
    rw [← split, List.mem_filter]
    exact ⟨member, decide_eq_true ⟨kind, same⟩⟩
  have ordered := sorted.filter fun event => event.eventType = type ∧ event.key = key
  rw [split, List.pairwise_append] at ordered
  rcases List.mem_append.mp inSplit with before | itself
  · exact ordered.2.2 other before event (List.mem_singleton.mpr rfl)
  · cases List.mem_singleton.mp itself
    have self : compareEventPosition event event = .eq := Std.ReflCmp.compare_self
    rw [self]
    decide

/-- In a list sorted by position, what stands of a feedback is its last submission, with its last
revocation where that has a greater position. -/
theorem replay_eq_latest (lawful : LawfulCollation) (sorted : events.Pairwise fun a b => compareEventPosition a b ≠ .gt)
    (single : ∀ a ∈ events, ∀ b ∈ events, compareEventPosition a b = .eq → a = b) (id : FeedbackId) :
    events.foldl replayEvent (fun _ => none) id = (latest .newFeedback id.key events).map fun submission =>
      (submission, (latest .feedbackRevoked id.key events).filter fun revocation =>
        compareEventPosition revocation submission = .gt) := by
  have order := lawful.position
  induction events using List.reverseRecOn with
  | nil => rfl
  | append_singleton events event ih =>
    obtain ⟨earlier, _, last⟩ := List.pairwise_append.mp sorted
    have ih := ih earlier fun a member b member' => single a (List.mem_append_left _ member) b (List.mem_append_left _ member')
    have last := fun other member => last other member event (List.mem_singleton.mpr rfl)
    rw [List.foldl_append, List.foldl_cons, List.foldl_nil]
    by_cases same : event.feedback = id
    · subst same
      have itself : event.key = event.feedback.key := rfl
      cases kind : event.eventType with
      | newFeedback =>
        have apart : ¬(event.eventType = .feedbackRevoked ∧ event.key = event.feedback.key) := fun both =>
          nomatch kind.symm.trans both.1
        rw [latest_snoc ⟨kind, itself⟩, latest_snoc_of_not apart, replayEvent_submits kind, Option.map_some]
        cases revoked : latest .feedbackRevoked event.feedback.key events with
        | none => rfl
        | some revocation =>
          have before := last revocation (latest_mem revoked).1
          exact congrArg (fun revocation => some (event, revocation)) (Option.filter_some_neg (by simpa using before)).symm
      | feedbackRevoked =>
        have apart : ¬(event.eventType = .newFeedback ∧ event.key = event.feedback.key) := fun both =>
          nomatch kind.symm.trans both.1
        rw [latest_snoc_of_not apart, latest_snoc ⟨kind, itself⟩, replayEvent_revokes kind, ih, Option.map_map]
        cases submitted : latest .newFeedback event.feedback.key events with
        | none => rfl
        | some submission =>
          obtain ⟨member, submits, _⟩ := latest_mem submitted
          have after : compareEventPosition event submission = .gt := by
            by_contra before
            cases single submission (List.mem_append_left _ member) event (List.mem_append_right _ (List.mem_singleton.mpr rfl))
              (eq_of_ne_gt (last submission member) before)
            rw [kind] at submits
            cases submits
          exact congrArg (fun revocation => some (submission, revocation)) (Option.filter_some_pos (by simpa using after)).symm
    · have apart : event.key ≠ id.key := fun equal => same (feedback_of_key equal)
      rw [latest_snoc_of_not (fun both => apart both.2), latest_snoc_of_not (fun both => apart both.2),
        replayEvent_other same, ih]

variable {identity : Erc8004Identity} {id : FeedbackId}

/-- The last submission of a feedback among the canonical events of an identity. -/
structure LastSubmission (events : List ReputationFeedbackEvent) (identity : Erc8004Identity) (id : FeedbackId)
    (submission : ReputationFeedbackEvent) : Prop where
  member : submission ∈ events
  counts : submission.Counts identity
  submits : submission.eventType = .newFeedback
  feedback : submission.feedback = id
  last : ∀ other ∈ events, other.Counts identity → other.eventType = .newFeedback → other.feedback = id →
    compareEventPosition other submission ≠ .gt

def RevokedAfter (events : List ReputationFeedbackEvent) (identity : Erc8004Identity) (submission : ReputationFeedbackEvent) :
    Prop :=
  ∃ revocation ∈ events, revocation.Counts identity ∧ revocation.eventType = .feedbackRevoked ∧
    revocation.feedback = submission.feedback ∧ compareEventPosition revocation submission = .gt

theorem scopedEvents_sorted (lawful : LawfulCollation) :
    (scopedEvents events identity).Pairwise fun a b => compareEventPosition a b ≠ .gt := by
  have order := lawful.position
  exact sorted_insertionSort _

theorem latest_iff (lawful : LawfulCollation) (single : OneEventPerPosition events identity) :
    latest .newFeedback id.key (scopedEvents events identity) = some submission ↔
      LastSubmission events identity id submission := by
  have order := lawful.position
  have sorted : (scopedEvents events identity).Pairwise fun a b => compareEventPosition a b ≠ .gt := scopedEvents_sorted lawful
  constructor
  · intro last
    obtain ⟨member, submits, key⟩ := latest_mem last
    obtain ⟨given, counts⟩ := mem_scopedEvents.mp member
    refine ⟨given, counts, submits, feedback_of_key key, fun other otherGiven otherCounts kind feedback => ?_⟩
    exact latest_after sorted lawful last (mem_scopedEvents.mpr ⟨otherGiven, otherCounts⟩) kind (key_of_feedback feedback)
  · intro last
    have member := mem_scopedEvents.mpr ⟨last.member, last.counts⟩
    have key := key_of_feedback last.feedback
    obtain ⟨other, found⟩ := latest_exists member last.submits key
    obtain ⟨inScope, kind, otherKey⟩ := latest_mem found
    obtain ⟨given, counts⟩ := mem_scopedEvents.mp inScope
    have le := last.last other given counts kind (feedback_of_key otherKey)
    have ge := latest_after sorted lawful found member last.submits key
    rw [found, single.eq lawful inScope member (eq_of_ne_gt le ge)]

theorem revocation_isSome (lawful : LawfulCollation) :
    ((latest .feedbackRevoked submission.feedback.key (scopedEvents events identity)).filter
      fun revocation => compareEventPosition revocation submission = .gt).isSome = true ↔
      RevokedAfter events identity submission := by
  have order := lawful.position
  have sorted : (scopedEvents events identity).Pairwise fun a b => compareEventPosition a b ≠ .gt := scopedEvents_sorted lawful
  constructor
  · intro present
    obtain ⟨revocation, found⟩ := Option.isSome_iff_exists.mp present
    obtain ⟨last, after⟩ := Option.filter_eq_some_iff.mp found
    obtain ⟨member, kind, key⟩ := latest_mem last
    obtain ⟨given, counts⟩ := mem_scopedEvents.mp member
    exact ⟨revocation, given, counts, kind, feedback_of_key key, of_decide_eq_true after⟩
  · rintro ⟨revocation, given, counts, kind, feedback, after⟩
    have member := mem_scopedEvents.mpr ⟨given, counts⟩
    obtain ⟨last, found⟩ := latest_exists member kind (key_of_feedback feedback)
    have le := latest_after sorted lawful found member kind (key_of_feedback feedback)
    have later : compareEventPosition last submission = .gt := by
      by_contra before
      exact ne_gt_trans le before after
    rw [found]
    simp [later]

theorem replay_iff (lawful : LawfulCollation) (single : OneEventPerPosition events identity)
    {revocation : Option ReputationFeedbackEvent} :
    replay events identity id = some (submission, revocation) ↔ LastSubmission events identity id submission ∧
      revocation = (latest .feedbackRevoked submission.feedback.key (scopedEvents events identity)).filter
        fun revocation => compareEventPosition revocation submission = .gt := by
  rw [replay, replay_eq_latest lawful (scopedEvents_sorted lawful) fun a member b member' => single.eq lawful member member',
    ← latest_iff lawful single]
  constructor
  · intro stands
    obtain ⟨last, found, equal⟩ := Option.map_eq_some_iff.mp stands
    cases equal
    exact ⟨found, by rw [feedback_of_key (latest_mem found).2.2]⟩
  · rintro ⟨found, rfl⟩
    rw [found, Option.map_some, feedback_of_key (latest_mem found).2.2]

/-- What the projection returns, before it is ordered, is what the replay leaves standing. -/
theorem mem_projection (lawful : LawfulCollation) (single : OneEventPerPosition events identity) {includeRevoked : Bool}
    {maps : ReputationMaps} (same : maps = (scopedEvents events identity).foldl ReputationMaps.add ⟨.empty, .empty⟩)
    {shown : ReputationFeedback} :
    (shown ∈ maps.feedback.entries.filterMap fun entry =>
        if (maps.revocation entry.1 entry.2).isSome && !includeRevoked then none
        else entry.2.shown (maps.revocation entry.1 entry.2)) ↔
      ∃ id submission revocation, replay events identity id = some (submission, revocation) ∧
        (revocation = none ∨ includeRevoked = true) ∧ submission.shown revocation = some shown := by
  have standing := replay_eq_latest lawful (scopedEvents_sorted lawful) fun a member b member' =>
    single.eq lawful member member'
  have revoked : ∀ key submission, maps.revocation key submission =
    (latest .feedbackRevoked key (scopedEvents events identity)).filter
      fun revocation => compareEventPosition revocation submission = .gt := by
    intro key submission
    rw [ReputationMaps.revocation, same, maps_get.2]
  rw [List.mem_filterMap]
  constructor
  · rintro ⟨⟨key, submission⟩, listed, returned⟩
    have found := OrderedMap.get_eq_some_iff.mpr listed
    rw [same, maps_get.1] at found
    obtain ⟨_, _, itself⟩ := latest_mem found
    rw [← itself, key_of_feedback rfl] at found returned
    refine ⟨submission.feedback, submission, maps.revocation submission.feedback.key submission, ?_, ?_⟩
    · rw [replay, standing, found, revoked]
      rfl
    · split at returned
      · cases returned
      · rename_i admitted
        refine ⟨?_, returned⟩
        cases present : maps.revocation submission.feedback.key submission with
        | none => exact .inl rfl
        | some revocation =>
          rw [present] at admitted
          exact .inr (by simpa using admitted)
  · rintro ⟨id, submission, revocation, stands, admitted, returned⟩
    rw [replay, standing] at stands
    obtain ⟨last, found, equal⟩ := Option.map_eq_some_iff.mp stands
    cases equal
    refine ⟨(id.key, submission), ?_, ?_⟩
    · rw [← OrderedMap.get_eq_some_iff, same, maps_get.1, found]
    · rw [revoked, if_neg, returned]
      rcases admitted with none | included
      · simp [none]
      · simp [included]

omit [Collation] in
theorem shown_feedback {revocation : Option ReputationFeedbackEvent} {shown : ReputationFeedback}
    (returned : submission.shown revocation = some shown) : shown.feedback = submission.feedback := by
  unfold ReputationFeedbackEvent.shown at returned
  split at returned
  · cases returned
    rfl
  · cases returned

omit [Collation] in
theorem shown_submission (submits : submission.eventType = .newFeedback) (revocation : Option ReputationFeedbackEvent) :
    ∃ shown, submission.shown revocation = some shown := by
  have valued := submission.valued
  have scaled := submission.scaled
  rw [submits] at valued scaled
  obtain ⟨value, given⟩ := Option.isSome_iff_exists.mp valued
  obtain ⟨valueDecimals, given'⟩ := Option.isSome_iff_exists.mp scaled
  rw [ReputationFeedbackEvent.shown, given, given']
  exact ⟨_, rfl⟩

variable {input : IdentityInput}

theorem projectReputationFeedback_eq (accepted : normalizeErc8004Identity input = .ok identity) (includeRevoked : Bool) :
    ∃ maps : ReputationMaps, maps = (scopedEvents events identity).foldl ReputationMaps.add ⟨.empty, .empty⟩ ∧
      projectReputationFeedback events input includeRevoked = .ok ((maps.feedback.entries.filterMap fun entry =>
        if (maps.revocation entry.1 entry.2).isSome && !includeRevoked then none
        else entry.2.shown (maps.revocation entry.1 entry.2)).insertionSort fun a b => compareFeedback a b ≠ .gt) := by
  refine ⟨_, rfl, ?_⟩
  rw [projectReputationFeedback, accepted]
  rfl

theorem projectReputationFeedback_pair {first second : ReputationFeedbackEvent}
    (accepted : normalizeErc8004Identity input = .ok identity) (counts : first.Counts identity)
    (counts' : second.Counts identity)
    (submits : first.eventType = .newFeedback) (submits' : second.eventType = .newFeedback) (key : first.key = second.key)
    (position : compareEventPosition first second = .eq) :
    projectReputationFeedback [first, second] input false = .ok (second.shown none).toList := by
  have listed : scopedEvents [first, second] identity = [first, second] := by
    simp [scopedEvents, counts.1, counts.2, counts'.1, counts'.2, position]
  obtain ⟨maps, same, projected⟩ : ∃ maps : ReputationMaps, maps = (scopedEvents [first, second] identity).foldl ReputationMaps.add ⟨.empty, .empty⟩ ∧ _ :=
    projectReputationFeedback_eq accepted false
  rw [listed, List.foldl_cons, List.foldl_cons, List.foldl_nil, ReputationMaps.add_submits submits,
    ReputationMaps.add_submits submits', key] at same
  have entries : maps.feedback.entries = [(second.key, second)] := by
    rw [same]
    exact if_pos rfl
  have unrevoked : maps.revocation second.key second = none := by
    rw [same]
    rfl
  rw [projected, entries, List.filterMap_cons, unrevoked]
  cases second.shown none <;> rfl

end

theorem codePoints_lawful : @LawfulCollation codePoints := by
  refine @LawfulCollation.mk codePoints (inferInstanceAs (Std.TransOrd String)) fun {a b} same => ?_
  have texts : compare a.text b.text = .eq := same
  exact Normalized.ext (Std.LawfulEqCmp.eq_of_compare texts)

def feedbackAddress : NormalAddress := ⟨"0x1111111111111111111111111111111111111111", by decide⟩

def feedbackHash : Hash :=
  ⟨"0x2222222222222222222222222222222222222222222222222222222222222222", by decide, by decide⟩

def feedbackIdentity : Erc8004Identity := ⟨⟨"eip155", by decide⟩, ⟨97, testnet_low, testnet_high⟩, feedbackAddress, ⟨"1", by decide⟩⟩

/-- A canonical submission at a position of its own, with this value. -/
def sampleSubmission (value : Checked isInt128) : ReputationFeedbackEvent where
  identity := feedbackIdentity
  reputationRegistry := feedbackAddress
  eventType := .newFeedback
  clientAddress := feedbackAddress
  feedbackIndex := ⟨"0", by decide⟩
  value := some value
  valueDecimals := some ⟨0, zero_low, by decide⟩
  indexedTag1 := none
  tag1 := none
  tag2 := none
  endpoint := none
  feedbackUri := none
  feedbackHash := none
  transactionHash := feedbackHash
  logIndex := ⟨0, zero_low, zero_high⟩
  blockNumber := ⟨1, by decide, by decide⟩
  blockHash := feedbackHash
  confirmationState := .canonical
  observedAt := 0
  valued := rfl
  scaled := rfl

def praise : ReputationFeedbackEvent := sampleSubmission ⟨"5", by decide⟩

def blame : ReputationFeedbackEvent := sampleSubmission ⟨"-5", by decide⟩

def feedbackInput : IdentityInput := ⟨"eip155", 97, "0x1111111111111111111111111111111111111111", "1"⟩

theorem feedbackInput_accepted : normalizeErc8004Identity feedbackInput = .ok feedbackIdentity := by decide +kernel

end Bnbera.Ingestion
