import Bnbera.Registration.Service
import Bnbera.Registration.Outcomes

namespace Bnbera.Registration

section

open Interleaving Publication

abbrev RegistrationEntry := Answered RegistrationCall RegistrationCall.Answer

/-- The events of the deployment in the order of their commits, and what the query for it finds for each user. -/
structure RegistrationState where
  events : List EventRow
  rows : String → Option DeploymentRow
  now : Int
  log : List (Nat × RegistrationEntry)

/-- A transaction of a user that started at this time and holds the lock now. Its rows have ids that no other row has,
and the endpoint of a card is the text of a URL. -/
structure Transaction.Meets (transaction : Transaction) (s : RegistrationState) (startedAt : Int) (userId : String) : Prop where
  startedAt : transaction.startedAt = startedAt
  row : transaction.row = s.rows userId
  newId : Function.Injective transaction.newId
  unused : ∀ n, s.events.length ≤ n → ∀ event ∈ s.events, event.id ≠ transaction.newId n
  endpoint : ∀ publicUrl endpoint, transaction.agentCardEndpoint publicUrl = .ok endpoint → endpoint ≠ ""

/-- A transaction commits with its lock, or leaves nothing behind. A commit that throws may have taken effect. -/
def Commits {α : Type} (result : Except RegistrationFailure (α × List EventRow)) (s : RegistrationState)
    (answer : Except RegistrationFailure α) (s' : RegistrationState) : Prop :=
  (∃ value, result = .ok (value, s'.events) ∧ (answer = .ok value ∨ ∃ error, answer = .error error)) ∨
    s'.events = s.events ∧ ∃ error, answer = .error error

def Reads {α : Type} (value : α) (s : RegistrationState) (answer : Except RegistrationFailure α) (s' : RegistrationState) : Prop :=
  s'.events = s.events ∧ (answer = .ok value ∨ ∃ error, answer = .error error)

section
variable [Sha256] [ByteDigests] [RegistrationSdk] (column : JsonbColumn) (deploymentId : String)

/-- The registry, the check of a public address and the index answer anything. -/
def RegistrationCall.exec : Semantics RegistrationCall RegistrationCall.Answer RegistrationState
  | .begin, s, answer, s' => Reads s.now s answer s'
  | .ensureIntent startedAt userId phase requesterAddress reservePhase, s, answer, s' =>
    ∃ transaction : Transaction, transaction.Meets s startedAt userId ∧
      Commits (Registration.ensureIntent column transaction userId deploymentId phase requesterAddress reservePhase s.events)
        s answer s'
  | .recordResult startedAt userId input requesterAddress prepared, s, answer, s' =>
    ∃ transaction : Transaction, transaction.Meets s startedAt userId ∧
      Commits (Registration.recordResult column transaction deploymentId input requesterAddress prepared s.events) s answer s'
  | .appendReconcile startedAt userId requesterAddress finding, s, answer, s' =>
    ∃ transaction : Transaction, transaction.Meets s startedAt userId ∧
      Commits (Registration.appendReconcile column transaction requesterAddress finding s.events) s answer s'
  | .appendOperation startedAt userId requesterAddress intent identity transactionHash uriDigest, s, answer, s' =>
    ∃ transaction : Transaction, transaction.Meets s startedAt userId ∧
      Commits (Registration.appendOperation column transaction requesterAddress intent identity transactionHash uriDigest s.events)
        s answer s'
  | .deployment userId, s, answer, s' => Reads (s.rows userId) s answer s'
  | .events, s, answer, s' => Reads (eventsOf s.events) s answer s'
  | _, s, _, s' => s'.events = s.events

/-- The world beside the calls: time passes, the deployment, its draft and its authority change, and the worker adds
events of its own. -/
structure Elsewhere (before after : RegistrationState) : Prop where
  events : ∃ others, after.events = before.events ++ others ∧ ∀ event ∈ others, ∃ text, event.statusMessage = .other text
  clock : before.now ≤ after.now
  log : after.log = before.log

abbrev Circumstance := RegistrationState → (op : RegistrationCall) → op.Answer → Prop

def anyTime : Circumstance := fun _ _ _ => True

def registrationExec (permits : Circumstance) (i : Nat) (_ : RegistrationRequest) :
    Semantics RegistrationCall RegistrationCall.Answer RegistrationState :=
  fun op s answer s' => permits s op answer ∧ op.exec column deploymentId s answer s' ∧ s'.rows = s.rows ∧ s'.now = s.now ∧
    s'.log = s.log ++ [(i, ⟨op, answer⟩)]

def registrationSystem (permits : Circumstance) :
    System RegistrationRequest RegistrationCall RegistrationCall.Answer RegistrationOutcome RegistrationState where
  handler request := (request.work deploymentId).run
  exec := registrationExec column deploymentId permits
  environment := Elsewhere
  mayStart _ _ := True

abbrev RegistrationPool := Pool RegistrationRequest RegistrationCall RegistrationCall.Answer RegistrationOutcome RegistrationState

structure Blank (s : RegistrationState) : Prop where
  events : ∀ event ∈ s.events, ∃ text, event.statusMessage = .other text
  log : s.log = []

abbrev RegistrationReach (permits : Circumstance) (pool : RegistrationPool) : Prop :=
  (registrationSystem column deploymentId permits).Reach Blank pool

variable {column deploymentId}

theorem registration_logs (permits : Circumstance) :
    (registrationSystem column deploymentId permits).Logs RegistrationState.log where
  exec _ _ _ _ _ _ called := called.2.2.2.2
  environment _ _ moved := moved.log

omit [Sha256] [ByteDigests] [RegistrationSdk] in
theorem blank_log (s : RegistrationState) (blank : Blank s) : s.log = [] := blank.log

end

end

section

open Creator Interleaving Publication

section
variable [Sha256] [ByteDigests] [RegistrationSdk]

def Intends (column : JsonbColumn) (deploymentId : String) (table : List EventRow) (intent : CreatorRegistrationIntent) : Prop :=
  asIntent (eventsOf table) deploymentId = .ok (some intent) ∨
    ∃ before userId requesterAddress, ∃ transaction : Transaction, asIntent (eventsOf before) deploymentId = .ok none ∧
      buildIntent userId deploymentId transaction.row requesterAddress transaction.agentCardEndpoint = .ok intent ∧
      table = before ++ [recordedRow column transaction before .intent (intentRefs intent) none true]

inductive Added (column : JsonbColumn) (deploymentId : String) : RegistrationCall → List EventRow → List EventRow → Prop
  | intent {startedAt : Int} {userId : String} {phase : Option CreatorRegistrationPhase} {requesterAddress : Option String}
      {reservePhase : Bool} {transaction : Transaction} {intent : CreatorRegistrationIntent} {table : List EventRow} :
      asIntent (eventsOf table) deploymentId = .ok none →
      buildIntent userId deploymentId transaction.row requesterAddress transaction.agentCardEndpoint = .ok intent →
      Added column deploymentId (.ensureIntent startedAt userId phase requesterAddress reservePhase) table
        (table ++ [recordedRow column transaction table .intent (intentRefs intent) none true])
  | reservation {startedAt : Int} {userId : String} {requesterAddress : Option String} {transaction : Transaction}
      {intent : CreatorRegistrationIntent} {status : CreatorRegistrationStatus} {phase : CreatorRegistrationPhase}
      {table after : List EventRow} :
      Intends column deploymentId table intent →
      statusFromEvents deploymentId (eventsOf table) intent = .ok status →
      Reserves column transaction intent status table phase after →
      Added column deploymentId (.ensureIntent startedAt userId (some phase) requesterAddress true) table after
  | result {startedAt : Int} {userId : String} {requesterAddress : Option String} {prepared : CreatorRegistrationIntent}
      {transaction : Transaction} {input : CreatorRegistrationResultInput} {stored : Option CreatorRegistrationIntent}
      {current : CreatorRegistrationStatus} {uriDigest expected : Option String} {table : List EventRow} :
      statusFromEvents deploymentId (eventsOf table) (stored.getD prepared) = .ok current →
      (∃ event ∈ table, event.statusMessage = phaseIntent input.phase) →
      hasOutcome input.phase (eventsOf table) = false →
      (input.phase = .uri → current.agentId.isSome = true ∧ (input.agentId.isSome = true → input.agentId = current.agentId)) →
      (input.status = .confirmed → input.phase = .mint → input.agentId.isSome = true) →
      Added column deploymentId (.recordResult startedAt userId input requesterAddress prepared) table
        (table ++ [recordedRow column transaction table (phaseResult input.phase)
          (resultRefs ⟨input.phase, input.callsId, input.transactionHash, input.status,
            if input.phase = .uri then current.agentId else input.agentId, uriDigest⟩ expected)
          input.transactionHash (input.status ≠ .confirmed)])
  | finding {startedAt : Int} {userId : String} {requesterAddress : Option String} {transaction : Transaction}
      {finding : Finding} {table : List EventRow} :
      Added column deploymentId (.appendReconcile startedAt userId requesterAddress finding) table
        (table ++ [recordedRow column transaction table .reconcile finding.event finding.rowHash true])
  | operation {startedAt : Int} {userId : String} {requesterAddress : Option String} {transaction : Transaction}
      {intent : CreatorRegistrationIntent} {identity : RegistrationIdentity} {transactionHash : Option String}
      {uriDigest : String} {table : List EventRow} :
      (∀ event ∈ table, event.statusMessage ≠ .operation) →
      Added column deploymentId (.appendOperation startedAt userId requesterAddress intent identity transactionHash uriDigest) table
        (table ++ [recordedRow column transaction table .operation (operationRefs intent identity uriDigest) transactionHash false])

abbrev Adds (column : JsonbColumn) (deploymentId : String) (op : RegistrationCall) : List EventRow → List EventRow → Prop :=
  Relation.ReflTransGen (Added column deploymentId op)

variable {column : JsonbColumn} {deploymentId : String} {table after : List EventRow} {op : RegistrationCall}

theorem Commits.adds {α : Type} {result : Except RegistrationFailure (α × List EventRow)} {s s' : RegistrationState}
    {answer : Except RegistrationFailure α} (commits : Commits result s answer s')
    (adds : ∀ value after, result = .ok (value, after) → Adds column deploymentId op s.events after) :
    Adds column deploymentId op s.events s'.events := by
  rcases commits with ⟨value, done, _⟩ | ⟨same, _⟩
  · exact adds value _ done
  · rw [same]

theorem ensureIntent_adds {transaction : Transaction} {startedAt : Int} {userId : String}
    {phase : Option CreatorRegistrationPhase} {requesterAddress : Option String} {reservePhase : Bool} {prepared : Prepared}
    (done : ensureIntent column transaction userId deploymentId phase requesterAddress reservePhase table = .ok (prepared, after)) :
    Adds column deploymentId (.ensureIntent startedAt userId phase requesterAddress reservePhase) table after := by
  obtain ⟨stored, status, kept, shown, reserved, _⟩ := ensureIntent_eq_ok done
  have first : Adds column deploymentId (.ensureIntent startedAt userId phase requesterAddress reservePhase) table stored ∧
      Intends column deploymentId stored prepared.intent := by
    rcases storedIntent_eq_ok kept with ⟨found, rfl⟩ | ⟨missing, built, rfl⟩
    · exact ⟨.refl, .inl found⟩
    · exact ⟨.single (.intent missing built), .inr ⟨table, userId, requesterAddress, transaction, missing, built, rfl⟩⟩
  rcases reserve_eq_ok reserved with ⟨_, rfl⟩ | ⟨asked, rfl, rfl, _, reserves⟩
  · exact first.1
  · exact first.1.tail (.reservation first.2 shown reserves)

/-- The table after a call is the table before with the events that the call adds. -/
theorem exec_adds {s s' : RegistrationState} {answer : op.Answer} (called : op.exec column deploymentId s answer s') :
    Adds column deploymentId op s.events s'.events := by
  cases op with
  | ensureIntent =>
    obtain ⟨transaction, _, commits⟩ := called
    exact commits.adds fun _ _ done => ensureIntent_adds done
  | recordResult startedAt userId input requesterAddress prepared =>
    obtain ⟨transaction, _, commits⟩ := called
    refine commits.adds fun outcome after done => ?_
    obtain ⟨stored, current, _, shown, granted, rest⟩ := recordResult_eq_ok done
    rcases rest with ⟨_, rfl, _⟩ | ⟨_, first, ofUri, ofMint, uriDigest, expected, rfl⟩
    · exact .refl
    · exact .single (.result shown granted first ofUri ofMint)
  | appendReconcile =>
    obtain ⟨transaction, _, commits⟩ := called
    refine commits.adds fun _ after done => ?_
    rw [appendReconcile_eq_ok done]
    exact .single .finding
  | appendOperation =>
    obtain ⟨transaction, _, commits⟩ := called
    refine commits.adds fun _ after done => ?_
    rcases appendOperation_eq_ok done with ⟨rfl, _⟩ | ⟨first, rfl⟩
    · exact .refl
    · exact .single (.operation first)
  | begin =>
    rw [called.1]
  | deployment =>
    rw [called.1]
  | events =>
    rw [called.1]
  | agentCardEndpoint | finalizedIdentity | finalizedBlock | receipt | findRegistered | readAgent =>
    have same : s'.events = s.events := called
    rw [same]

theorem Added.grows (added : Added column deploymentId op table after) : ∃ event, after = table ++ [event] := by
  cases added with
  | intent | result | finding | operation => exact ⟨_, rfl⟩
  | reservation _ _ reserves => cases reserves <;> exact ⟨_, rfl⟩

theorem Adds.grows (adds : Adds column deploymentId op table after) : ∀ event ∈ table, event ∈ after := by
  induction adds with
  | refl => exact fun _ member => member
  | tail _ added ih =>
    obtain ⟨event, rfl⟩ := added.grows
    exact fun other member => List.mem_append_left _ (ih other member)

theorem Adds.keeps {holds : List EventRow → Prop} (adds : Adds column deploymentId op table after)
    (each : ∀ table after, Added column deploymentId op table after → holds table → holds after) (start : holds table) :
    holds after := by
  induction adds with
  | refl => exact start
  | tail _ added ih => exact each _ _ added ih

end

end

end Bnbera.Registration
