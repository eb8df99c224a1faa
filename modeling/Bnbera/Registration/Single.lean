import Bnbera.Registration.Once
import Bnbera.Registration.Stored

namespace Bnbera.Registration

open Creator Interleaving Publication

theorem lastIntent_mem {events : List EventRow} {event : EventRow} (last : lastIntent events = some event) :
    event ∈ events ∧ event.statusMessage = .intent := by
  have sought := List.find?_some last
  exact ⟨List.mem_reverse.mp (List.mem_of_find?_eq_some last), of_decide_eq_true sought⟩

theorem lastIntent_none {events : List EventRow} :
    lastIntent events = none ↔ ∀ event ∈ events, event.statusMessage ≠ .intent := by
  simp only [lastIntent, List.find?_eq_none, List.mem_reverse, decide_eq_true_eq]

section
variable [Sha256] [ByteDigests] [RegistrationSdk] (column : JsonbColumn) (deploymentId : String)

structure Stores (event : EventRow) (intent : CreatorRegistrationIntent) : Prop where
  message : event.statusMessage = .intent
  refs : event.externalResourceReferences = column.read (.obj (intentRefs intent))
  built : Built deploymentId intent
  survives : Survives column intent

def Keeping : Circumstance
  | s, .ensureIntent _ userId _ requesterAddress _, _ => ∀ agentCardEndpoint intent,
    (∀ publicUrl endpoint, agentCardEndpoint publicUrl = .ok endpoint → endpoint ≠ "") →
      buildIntent userId deploymentId (s.rows userId) requesterAddress agentCardEndpoint = .ok intent → Survives column intent
  | _, _, _ => True

structure OneIntent (table : List EventRow) : Prop where
  stored : ∀ event ∈ table, event.statusMessage = .intent → ∃ intent, Stores column deploymentId event intent
  once : (table.filter (·.statusMessage = .intent)).length ≤ 1
  minted : ∀ event ∈ table, event.statusMessage = .mintIntent →
    ∃ first ∈ table, ∃ intent, Stores column deploymentId first intent ∧ event.text "uriDigest" = some intent.uriDigest

variable {column deploymentId} {table events others : List EventRow} {event event' : EventRow} {intent intent' : CreatorRegistrationIntent}

theorem OneIntent.same (one : OneIntent column deploymentId table) (member : event ∈ table) (member' : event' ∈ table)
    (message : event.statusMessage = .intent) (message' : event'.statusMessage = .intent) : event = event' := by
  have inside : event ∈ table.filter (·.statusMessage = .intent) := List.mem_filter.mpr ⟨member, decide_eq_true message⟩
  have inside' : event' ∈ table.filter (·.statusMessage = .intent) := List.mem_filter.mpr ⟨member', decide_eq_true message'⟩
  have once := one.once
  rw [Nat.le_one_iff_eq_zero_or_eq_one, List.length_eq_zero_iff, List.length_eq_one_iff] at once
  rcases once with none | ⟨only, single⟩
  · rw [none] at inside
    exact (List.not_mem_nil inside).elim
  · rw [single, List.mem_singleton] at inside inside'
    exact inside.trans inside'.symm

theorem OneIntent.read (one : OneIntent column deploymentId table) (inside : ∀ event ∈ events, event ∈ table)
    (member : event ∈ events) (stores : Stores column deploymentId event intent) :
    asIntent events deploymentId = .ok (some intent) := by
  cases last : lastIntent events with
  | none => exact absurd stores.message (lastIntent_none.mp last event member)
  | some found =>
    obtain ⟨inside', message⟩ := lastIntent_mem last
    have same := one.same (inside found inside') (inside event member) message stores.message
    rw [same] at last
    rcases asIntent_stored stores.built last stores.refs with ⟨read, _⟩ | ⟨_, lost⟩
    · exact read
    · exact absurd stores.survives lost

theorem OneIntent.shown (one : OneIntent column deploymentId table) (inside : ∀ event ∈ events, event ∈ table)
    (read : asIntent events deploymentId = .ok (some intent)) : ∃ event ∈ events, Stores column deploymentId event intent := by
  cases last : lastIntent events with
  | none =>
    rw [asIntent, last] at read
    cases read
  | some found =>
    obtain ⟨member, message⟩ := lastIntent_mem last
    obtain ⟨kept, stores⟩ := one.stored found (inside found member) message
    rw [one.read inside member stores] at read
    cases read
    exact ⟨found, member, stores⟩

theorem OneIntent.unread (one : OneIntent column deploymentId table) (inside : ∀ event ∈ events, event ∈ table)
    (read : asIntent events deploymentId = .ok none) : ∀ event ∈ events, event.statusMessage ≠ .intent := by
  intro event member message
  obtain ⟨kept, stores⟩ := one.stored event (inside event member) message
  rw [one.read inside member stores] at read
  cases read

theorem OneIntent.intent_eq (one : OneIntent column deploymentId table) (member : event ∈ table) (member' : event' ∈ table)
    (stores : Stores column deploymentId event intent) (stores' : Stores column deploymentId event' intent') :
    intent = intent' := by
  have read := one.read (fun _ inside => inside) member stores
  rw [one.read (fun _ inside => inside) member' stores'] at read
  cases read
  rfl

theorem OneIntent.append (one : OneIntent column deploymentId table)
    (apart : ∀ event ∈ others, event.statusMessage ≠ .intent ∧ event.statusMessage ≠ .mintIntent) :
    OneIntent column deploymentId (table ++ others) where
  stored event member message := by
    rcases List.mem_append.mp member with old | new
    · exact one.stored event old message
    · exact absurd message (apart event new).1
  once := by
    have nothing : others.filter (·.statusMessage = .intent) = [] := by
      simp only [List.filter_eq_nil_iff, decide_eq_true_eq]
      exact fun event member => (apart event member).1
    rw [List.filter_append, nothing, List.append_nil]
    exact one.once
  minted event member message := by
    rcases List.mem_append.mp member with old | new
    · obtain ⟨first, inside, rest⟩ := one.minted event old message
      exact ⟨first, List.mem_append_left _ inside, rest⟩
    · exact absurd message (apart event new).2

theorem OneIntent.first (one : OneIntent column deploymentId table) (none : ∀ event ∈ table, event.statusMessage ≠ .intent)
    (stores : Stores column deploymentId event intent) : OneIntent column deploymentId (table ++ [event]) where
  stored other member message := by
    rcases List.mem_append.mp member with old | new
    · exact absurd message (none other old)
    · exact ⟨intent, List.mem_singleton.mp new ▸ stores⟩
  once := by
    have nothing : table.filter (·.statusMessage = .intent) = [] := by
      simp only [List.filter_eq_nil_iff, decide_eq_true_eq]
      exact none
    rw [List.filter_append, nothing, List.nil_append]
    exact List.length_filter_le _ _
  minted other member message := by
    rcases List.mem_append.mp member with old | new
    · obtain ⟨first, inside, rest⟩ := one.minted other old message
      exact ⟨first, List.mem_append_left _ inside, rest⟩
    · rw [List.mem_singleton.mp new, stores.message] at message
      cases message

theorem OneIntent.mint (one : OneIntent column deploymentId table) {transaction : Transaction} {scanStartBlock : Int}
    (member : event ∈ table) (stores : Stores column deploymentId event intent) :
    OneIntent column deploymentId
      (table ++ [recordedRow column transaction table .mintIntent (mintIntentRefs intent scanStartBlock) none true]) where
  stored other inside message := by
    rcases List.mem_append.mp inside with old | new
    · exact one.stored other old message
    · rw [List.mem_singleton.mp new] at message
      cases message
  once := by
    rw [List.filter_append, List.filter_cons_of_neg (by simp [recordedRow]), List.filter_nil, List.append_nil]
    exact one.once
  minted other inside message := by
    rcases List.mem_append.mp inside with old | new
    · obtain ⟨first, inside, rest⟩ := one.minted other old message
      exact ⟨first, List.mem_append_left _ inside, rest⟩
    · refine ⟨event, List.mem_append_left _ member, intent, stores, ?_⟩
      rw [List.mem_singleton.mp new, (recordedRow_holds (mintIntentRefs_nodup _ _)).text]
      rw [show fieldOf (mintIntentRefs intent scanStartBlock) "uriDigest" = some (.str intent.uriDigest) from rfl]
      exact asString_text (stores.built.uriDigest ▸ uriDigest_written _)

structure Shows (status : CreatorRegistrationStatus) (intent : CreatorRegistrationIntent) : Prop where
  operationId : status.operationId = intent.operationId
  ownerAddress : status.ownerAddress = intent.ownerAddress
  agentWallet : status.agentWallet = intent.agentWallet
  endpoint : status.endpoint = intent.endpoint
  name : status.name = intent.name
  tradingPair : status.tradingPair = intent.configuration.tradingPair
  configurationDigest : status.configurationDigest = intent.configurationDigest
  initialUriDigest : status.initialUriDigest = intent.uriDigest

theorem OneIntent.shows (one : OneIntent column deploymentId table) (inside : ∀ event ∈ events, event ∈ table)
    (member : event ∈ table) (stores : Stores column deploymentId event intent) {status : CreatorRegistrationStatus}
    (shown : statusFromEvents deploymentId events intent = .ok status) : Shows status intent := by
  obtain ⟨agentId, _, rest⟩ := bind_eq_ok.mp shown
  cases rest
  refine ⟨rfl, rfl, rfl, rfl, rfl, rfl, rfl, ?_⟩
  show (refsText (progressOf events).mintIntent "uriDigest").getD intent.uriDigest = intent.uriDigest
  rw [progressOf_mintIntent]
  cases last : lastOf (·.statusMessage = .mintIntent) events with
  | none => rfl
  | some reserved =>
    obtain ⟨member', message⟩ := lastOf_mem last
    obtain ⟨first, found, kept, stores', digest⟩ := one.minted reserved (inside reserved member') (of_decide_eq_true message)
    rw [Option.bind_some]
    change (reserved.text "uriDigest").getD intent.uriDigest = intent.uriDigest
    rw [digest, one.intent_eq member found stores stores']
    rfl

theorem ensureIntent_stores {transaction : Transaction} {userId : String} {phase : Option CreatorRegistrationPhase}
    {requesterAddress : Option String} {reservePhase : Bool} {prepared : Prepared} {after : List EventRow}
    (done : ensureIntent column transaction userId deploymentId phase requesterAddress reservePhase table = .ok (prepared, after))
    (survives : ∀ intent, buildIntent userId deploymentId transaction.row requesterAddress transaction.agentCardEndpoint = .ok intent →
      Survives column intent) (one : OneIntent column deploymentId table) :
    OneIntent column deploymentId after ∧ ∃ event ∈ after, Stores column deploymentId event prepared.intent := by
  obtain ⟨stored, status, kept, _, reserved, _⟩ := ensureIntent_eq_ok done
  have first : OneIntent column deploymentId stored ∧ ∃ event ∈ stored, Stores column deploymentId event prepared.intent := by
    rcases storedIntent_eq_ok kept with ⟨found, rfl⟩ | ⟨missing, made, rfl⟩
    · obtain ⟨event, member, stores⟩ := one.shown (fun event => mem_eventsOf.mp) found
      exact ⟨one, event, mem_eventsOf.mp member, stores⟩
    · have unstored := one.unread (fun event => mem_eventsOf.mp) missing
      have stores : Stores column deploymentId
          (recordedRow column transaction table .intent (intentRefs prepared.intent) none true) prepared.intent :=
        ⟨rfl, rfl, (buildIntent_built made).1, survives _ made⟩
      exact ⟨one.first (fun event member => unstored event (mem_eventsOf.mpr member)) stores, _, List.mem_append_right _ (List.mem_singleton_self _), stores⟩
  obtain ⟨one, event, member, stores⟩ := first
  rcases reserve_eq_ok reserved with ⟨_, rfl⟩ | ⟨asked, _, _, _, reserves⟩
  · exact ⟨one, event, member, stores⟩
  · cases reserves with
    | mint => exact ⟨one.mint member stores, event, List.mem_append_left _ member, stores⟩
    | uri =>
      refine ⟨one.append fun other new => ?_, event, List.mem_append_left _ member, stores⟩
      rw [List.mem_singleton.mp new]
      exact ⟨fun absent => (nomatch absent), fun absent => (nomatch absent)⟩

end

section
variable [Sha256] [ByteDigests] [RegistrationSdk]

/-- One intent is stored, and everything that the log says of an intent is about it. -/
structure Lasting (column : JsonbColumn) (deploymentId : String) (s : RegistrationState) : Prop where
  one : OneIntent column deploymentId s.events
  prepared : ∀ i startedAt userId phase requesterAddress reservePhase prepared,
    (i, (⟨.ensureIntent startedAt userId phase requesterAddress reservePhase, .ok prepared⟩ : RegistrationEntry)) ∈ s.log →
      ∃ event ∈ s.events, Stores column deploymentId event prepared.intent
  recorded : ∀ i startedAt userId input requesterAddress intent status,
    (i, (⟨.recordResult startedAt userId input requesterAddress intent, .ok (some status)⟩ : RegistrationEntry)) ∈ s.log →
      ∃ event ∈ s.events, ∃ kept, Stores column deploymentId event kept ∧ Shows status kept

variable {column : JsonbColumn} {deploymentId : String} {s s' : RegistrationState} {i : Nat} {op : RegistrationCall}
  {answer : op.Answer}

theorem Lasting.elsewhere {before after : RegistrationState} (moved : Elsewhere before after)
    (lasting : Lasting column deploymentId before) : Lasting column deploymentId after where
  one := by
    obtain ⟨others, same, other⟩ := moved.events
    rw [same]
    refine lasting.one.append fun event member => ?_
    obtain ⟨text, message⟩ := other event member
    rw [message]
    exact ⟨fun absent => (nomatch absent), fun absent => (nomatch absent)⟩
  prepared j startedAt userId phase requesterAddress reservePhase prepared member := by
    obtain ⟨event, inside, stores⟩ := lasting.prepared j _ _ _ _ _ _ (moved.log ▸ member)
    exact ⟨event, moved.mem inside, stores⟩
  recorded j startedAt userId input requesterAddress intent status member := by
    obtain ⟨event, inside, rest⟩ := lasting.recorded j _ _ _ _ _ _ (moved.log ▸ member)
    exact ⟨event, moved.mem inside, rest⟩

theorem Added.apart {table after : List EventRow} (added : Added column deploymentId op table after)
    (other : ∀ startedAt userId phase requesterAddress reservePhase, op ≠ .ensureIntent startedAt userId phase requesterAddress reservePhase) :
    ∃ event, after = table ++ [event] ∧ event.statusMessage ≠ .intent ∧ event.statusMessage ≠ .mintIntent := by
  cases added with
  | intent => exact absurd rfl (other _ _ _ _ _)
  | reservation => exact absurd rfl (other _ _ _ _ _)
  | @result _ _ _ _ _ input =>
    refine ⟨_, rfl, ?_⟩
    cases input.phase <;> exact ⟨fun absent => (nomatch absent), fun absent => (nomatch absent)⟩
  | finding => exact ⟨_, rfl, fun absent => (nomatch absent), fun absent => (nomatch absent)⟩
  | operation => exact ⟨_, rfl, fun absent => (nomatch absent), fun absent => (nomatch absent)⟩

theorem OneIntent.called (called : op.exec column deploymentId s answer s') (keeping : Keeping column deploymentId s op answer)
    (one : OneIntent column deploymentId s.events) : OneIntent column deploymentId s'.events := by
  by_cases prepares : ∃ startedAt userId phase requesterAddress reservePhase,
      op = .ensureIntent startedAt userId phase requesterAddress reservePhase
  · obtain ⟨startedAt, userId, phase, requesterAddress, reservePhase, rfl⟩ := prepares
    obtain ⟨transaction, meets, ⟨value, done, _⟩ | ⟨same, _⟩⟩ := called
    · refine (ensureIntent_stores done (fun intent made => ?_) one).1
      exact keeping _ intent meets.endpoint (meets.row ▸ made)
    · rw [same]
      exact one
  · refine (exec_adds called).keeps (fun table after added one => ?_) one
    obtain ⟨event, rfl, apart⟩ := added.apart fun startedAt userId phase requesterAddress reservePhase same =>
      prepares ⟨startedAt, userId, phase, requesterAddress, reservePhase, same⟩
    refine one.append fun other new => ?_
    rw [List.mem_singleton.mp new]
    exact apart

theorem Lasting.called (called : op.exec column deploymentId s answer s') (logged : s'.log = s.log ++ [(i, ⟨op, answer⟩)])
    (keeping : Keeping column deploymentId s op answer) (guarded : callGuard (System.ownCalls s.log i) op)
    (lasting : Lasting column deploymentId s) : Lasting column deploymentId s' := by
  have grown := (exec_adds called).grows
  have entry : ∀ {j entry}, (j, entry) ∈ s'.log → (j, entry) ∈ s.log ∨ entry = ⟨op, answer⟩ := by
    intro j entry member
    rw [logged] at member
    rcases List.mem_append.mp member with old | new
    · exact .inl old
    · exact .inr (Prod.mk.inj (List.mem_singleton.mp new)).2
  refine ⟨lasting.one.called called keeping, ?_, ?_⟩
  · intro j startedAt userId phase requesterAddress reservePhase prepared member
    rcases entry member with old | new
    · obtain ⟨event, inside, stores⟩ := lasting.prepared j _ _ _ _ _ _ old
      exact ⟨event, grown event inside, stores⟩
    · cases new
      obtain ⟨transaction, meets, commits⟩ := called
      refine (ensureIntent_stores commits.ok (fun intent made => ?_) lasting.one).2
      exact keeping _ intent meets.endpoint (meets.row ▸ made)
  · intro j startedAt userId input requesterAddress intent status member
    rcases entry member with old | new
    · obtain ⟨event, inside, rest⟩ := lasting.recorded j _ _ _ _ _ _ old
      exact ⟨event, grown event inside, rest⟩
    · cases new
      obtain ⟨entry, known, made⟩ := guarded
      obtain ⟨event, inside, stores⟩ : ∃ event ∈ s.events, Stores column deploymentId event intent := by
        unfold preparedBy at made
        split at made
        · exact made ▸ lasting.prepared i _ _ _ _ _ _ (System.mem_ownCalls.mp known)
        · cases made
      obtain ⟨transaction, _, commits⟩ := called
      obtain ⟨stored, current, read, shown, _, outcome⟩ := recordResult_eq_ok commits.ok
      have sees : ∀ event ∈ eventsOf s.events, event ∈ s.events := fun event => mem_eventsOf.mp
      rw [lasting.one.read sees (mem_eventsOf.mpr inside) stores] at read
      cases read
      rcases outcome with ⟨same, _⟩ | ⟨absent, _⟩
      · cases same
        exact ⟨event, grown event inside, intent, stores, lasting.one.shows sees inside stores shown⟩
      · cases absent

theorem Blank.lasting (blank : Blank s) : Lasting column deploymentId s := by
  have nothing : ∀ message : StatusMessage, message.isBrowsers = true → ∀ event ∈ s.events, event.statusMessage ≠ message := by
    intro message browsers event member same
    obtain ⟨text, other⟩ := blank.events event member
    rw [← same, other] at browsers
    cases browsers
  refine ⟨⟨fun event member message => absurd message (nothing .intent rfl event member), ?_,
    fun event member message => absurd message (nothing .mintIntent rfl event member)⟩, ?_, ?_⟩
  · have none : s.events.filter (·.statusMessage = .intent) = [] := by
      simp only [List.filter_eq_nil_iff, decide_eq_true_eq]
      exact nothing .intent rfl
    rw [none]
    exact Nat.zero_le 1
  all_goals
    intros
    simp only [blank.log, List.not_mem_nil] at *

theorem RegistrationReach.lasting {pool : RegistrationPool}
    (reach : RegistrationReach column deploymentId (Keeping column deploymentId) pool) : Lasting column deploymentId pool.state :=
  reach.guarded (fun _ blank => blank.lasting) (fun _ _ _ _ _ keeping called logged guarded held =>
    held.called called logged keeping guarded) fun _ _ moved held => held.elsewhere moved

/-- What a run comes to from a pool in which an event is there: whoever starts later reads that event. -/
structure Later (column : JsonbColumn) (deploymentId : String) (permits : Circumstance) (pool : RegistrationPool) (event : EventRow)
    (later : RegistrationPool) : Prop where
  reach : RegistrationReach column deploymentId permits later
  there : event ∈ later.state.events
  read : ∀ j events, pool.threads.length ≤ j → (j, (⟨.events, .ok events⟩ : RegistrationEntry)) ∈ later.state.log → event ∈ events

theorem RegistrationReach.later {permits : Circumstance} {pool later : RegistrationPool} {event : EventRow}
    (reach : RegistrationReach column deploymentId permits pool) (there : event ∈ pool.state.events)
    (run : Relation.ReflTransGen (registrationSystem column deploymentId permits).Step pool later) :
    Later column deploymentId permits pool event later := by
  induction run with
  | refl =>
    refine ⟨reach, there, fun j events beyond member => ?_⟩
    obtain ⟨thread, found⟩ := System.Reach.caller reach (registration_logs permits) blank_log member
    have bound := (List.getElem?_eq_some_iff.mp found).1
    omega
  | tail _ step ih =>
    have reached := ih.reach.next step
    cases step with
    | start => exact ⟨reached, ih.there, ih.read⟩
    | environment moved => exact ⟨reached, moved.mem ih.there, fun j events beyond member => ih.read j events beyond (moved.log ▸ member)⟩
    | @call k request op next answer after _ called =>
      obtain ⟨_, executed, _, _, logged⟩ := called
      refine ⟨reached, (exec_adds executed).grows event ih.there, fun j events beyond member => ?_⟩
      rw [logged] at member
      rcases List.mem_append.mp member with old | new
      · exact ih.read j events beyond old
      · cases List.mem_singleton.mp new
        have same : events = _ := Reads.ok executed
        rw [same, mem_eventsOf]
        exact ih.there

def ShowsIntent (intent : CreatorRegistrationIntent) : RegistrationResponse → Prop
  | .status status => Shows status intent
  | .prepared response => Shows response.toCreatorRegistrationStatus intent ∧
    (response.phase = some .mint ∧ response.registrationFile = intent.registrationFile ∧
        response.registrationUri = intent.registrationUri ∧ response.uriDigest = intent.uriDigest ∨
      response.phase = some .uri ∧ ∃ agentId, response.agentId = some agentId ∧
        finalizedCreatorRegistrationFile intent.registrationFile agentId = .ok response.registrationFile ∧
        encodedCreatorRegistrationUri response.registrationFile = .ok response.registrationUri ∧
        response.uriDigest = creatorRegistrationUriDigest response.registrationUri)

theorem OneIntent.prepares {table : List EventRow} (one : OneIntent column deploymentId table) {event : EventRow}
    {prepared : Prepared} (inside : ∀ event ∈ prepared.events, event ∈ table) (member : event ∈ table)
    (stores : Stores column deploymentId event prepared.intent) {phase : CreatorRegistrationPhase}
    {response : CreatorRegistrationPrepareResponse} (made : prepareResponse deploymentId phase prepared = .ok response) :
    ShowsIntent prepared.intent (.prepared response) := by
  obtain ⟨status, shown, rest⟩ := bind_eq_ok.mp made
  have shows := one.shows inside member stores shown
  cases phase with
  | mint =>
    cases rest
    exact ⟨⟨shows.operationId, shows.ownerAddress, shows.agentWallet, shows.endpoint, shows.name, shows.tradingPair,
      shows.configurationDigest, shows.initialUriDigest⟩, .inl ⟨rfl, rfl, rfl, rfl⟩⟩
  | uri =>
    cases known : status.agentId with
    | none =>
      rw [known] at rest
      cases rest
    | some agentId =>
      rw [known] at rest
      obtain ⟨file, finalized, rest⟩ := bind_eq_ok.mp rest
      obtain ⟨uri, encoded, rest⟩ := bind_eq_ok.mp rest
      cases rest
      exact ⟨⟨shows.operationId, shows.ownerAddress, shows.agentWallet, shows.endpoint, shows.name, shows.tradingPair,
        shows.configurationDigest, shows.initialUriDigest⟩, .inr ⟨rfl, agentId, rfl, finalized, encoded, rfl⟩⟩

/-- Whoever starts once an intent is stored shows that intent. -/
theorem Later.shows {pool later : RegistrationPool} {event : EventRow} {intent : CreatorRegistrationIntent}
    (run : Later column deploymentId (Keeping column deploymentId) pool event later) (stores : Stores column deploymentId event intent)
    {j : Nat} {request : RegistrationRequest} {response : RegistrationResponse} (beyond : pool.threads.length ≤ j)
    (found : later.threads[j]? = some ⟨request, .done (.ok response)⟩) : ShowsIntent intent response := by
  have lasting := run.reach.lasting
  have witnessed := run.reach.witnessed
  have only : ∀ {other kept}, other ∈ later.state.events → Stores column deploymentId other kept → kept = intent :=
    fun member stores' => lasting.one.intent_eq member run.there stores' stores
  have answered := System.Reach.returned run.reach (registration_logs _) blank_log (request_keeps deploymentId) found _ rfl
  have ofStatus : ∀ status, Sourced deploymentId status (System.ownCalls later.state.log j) → Shows status intent := by
    rintro status (⟨events, kept, read, known, shown⟩ | ⟨startedAt, userId, input, requesterAddress, kept, recorded⟩)
    · have member := System.mem_ownCalls.mp read
      have inside := witnessed.read j events member
      have seen := run.read j events beyond member
      have same : kept = intent := by
        rcases known with ⟨entry, prepared, made⟩ | shows | missing
        · unfold preparedBy at made
          split at made
          · obtain ⟨other, there, stores'⟩ := lasting.prepared j _ _ _ _ _ _ (System.mem_ownCalls.mp prepared)
            exact made ▸ only there stores'
          · cases made
        · obtain ⟨other, there, stores'⟩ := lasting.one.shown inside shows
          exact only (inside other there) stores'
        · exact absurd stores.message (lasting.one.unread inside missing event seen)
      exact lasting.one.shows inside run.there stores (same ▸ shown)
    · obtain ⟨other, there, kept, stores', shows⟩ := lasting.recorded j _ _ _ _ _ _ (System.mem_ownCalls.mp recorded)
      exact only there stores' ▸ shows
  cases response with
  | status status =>
    refine ofStatus status ?_
    cases request with
    | prepare => exact answered.elim
    | recordResult | reconcile | status => exact answered
  | prepared response =>
    cases request with
    | prepare userId phase requesterAddress =>
      obtain ⟨startedAt, prepared, member, made⟩ := answered
      have logged := System.mem_ownCalls.mp member
      obtain ⟨other, there, stores'⟩ := lasting.prepared j _ _ _ _ _ _ logged
      have shows := lasting.one.prepares (witnessed.prepared j _ _ _ _ _ _ logged).1 there stores' made
      exact only there stores' ▸ shows
    | recordResult | reconcile | status => exact answered.elim

end

end Bnbera.Registration
