import Bnbera.Creator.Sampling
import Bnbera.Registration.Single

namespace Bnbera.Registration

open Creator Interleaving Publication

section
variable {file : Json}

theorem utf8_length (text : String) : (utf8 text).length = text.utf8ByteSize := by
  have bytes : text.toUTF8.toList = text.toUTF8.data.toList := toList_loop _ 0 []
  rw [utf8, bytes]
  rfl

theorem narrow_length {chars : List Char} (narrow : ∀ c ∈ chars, c.toNat < 0x10000) :
    (utf16Units (String.ofList chars)).length = chars.length := by
  rw [utf16Units, String.toList_ofList]
  induction chars with
  | nil => rfl
  | cons c rest ih =>
    have later := ih fun other member => narrow other (List.mem_cons_of_mem _ member)
    rw [List.flatMap_cons, List.length_append, later, if_pos (narrow c List.mem_cons_self), List.length_cons]
    exact Nat.add_comm 1 _

theorem encodedCreatorRegistrationUri_ok (small : file.bound ≤ 1475) :
    encodedCreatorRegistrationUri file = .ok (encodeErc8004AgentUri file) := by
  have chars : encodeErc8004AgentUri file =
      String.ofList (dataUriPrefix.toList ++ Base64.encode (utf8 (stringifyJson file))) := by
    rw [String.ofList_append, String.ofList_toList]
    rfl
  have prefixed : dataUriPrefix.toList.isPrefixOf (encodeErc8004AgentUri file).toList = true := by
    rw [chars, String.toList_ofList, List.isPrefixOf_iff_prefix]
    exact List.prefix_append _ _
  have start : dataUriPrefix.toList.length = 29 ∧ dataUriPrefix.toList.all (·.toNat < 0x10000) = true := by decide
  have short : (utf16Units (encodeErc8004AgentUri file)).length ≤ 2000 := by
    have bytes := stringifyJson_bound file
    have encoded := Base64.encode_bound (utf8 (stringifyJson file))
    rw [utf8_length] at encoded
    rw [chars, narrow_length, List.length_append, start.1]
    · omega
    · intro c member
      rcases List.mem_append.mp member with first | inner
      · exact of_decide_eq_true (List.all_eq_true.mp start.2 c first)
      · exact (Base64.encode_ascii _ c inner).trans (by decide)
  simp only [encodedCreatorRegistrationUri, prefixed, Bool.not_true, Bool.false_eq_true, if_false, if_neg
    (Nat.not_lt.mpr short)]

end

def writtenColumn : JsonbColumn := ⟨id, SameJson.refl⟩

def nextId (table : List EventRow) : Nat := table.foldr (fun event next => max (event.id + 1) next) 0

theorem id_lt_nextId {table : List EventRow} {event : EventRow} (member : event ∈ table) : event.id < nextId table := by
  induction table with
  | nil => cases member
  | cons first rest ih =>
    rw [nextId, List.foldr_cons, ← nextId]
    rcases List.mem_cons.mp member with rfl | inside
    · omega
    · have later := ih inside
      omega

def RegistrationState.transaction (s : RegistrationState) (startedAt : Int) (userId : String) : Transaction where
  startedAt := startedAt
  newId n := n + nextId s.events
  row := s.rows userId
  agentCardEndpoint _ := .ok "https://agent.example/.well-known/agent-card.json"
  finalizedBlock := .ok 100

theorem RegistrationState.transaction_meets (s : RegistrationState) (startedAt : Int) (userId : String) :
    (s.transaction startedAt userId).Meets s startedAt userId where
  startedAt := rfl
  row := rfl
  newId a b same := by
    simp only [RegistrationState.transaction] at same
    omega
  unused n _ event member same := by
    have below := id_lt_nextId member
    simp only [RegistrationState.transaction] at same
    omega
  endpoint _ endpoint answered := by
    cases answered
    decide

section
variable {α : Type}

def RegistrationState.committed (s : RegistrationState) :
    Except RegistrationFailure (α × List EventRow) → Except RegistrationFailure α × RegistrationState
  | .ok (value, events) => (.ok value, { s with events })
  | .error error => (.error error, s)

theorem RegistrationState.committed_commits (s : RegistrationState) (result : Except RegistrationFailure (α × List EventRow)) :
    Commits result s (s.committed result).1 (s.committed result).2 := by
  cases result with
  | ok made => exact .inl ⟨made.1, rfl, .inl rfl⟩
  | error error => exact .inr ⟨rfl, error, rfl⟩

end

section
variable [Sha256] [ByteDigests] [RegistrationSdk] (column : JsonbColumn) (deploymentId : String)

/-- An answer to each call, where nothing fails and the registry shows nothing. -/
def RegistrationState.answers (s : RegistrationState) : (op : RegistrationCall) → op.Answer × RegistrationState
  | .begin => (.ok s.now, s)
  | .ensureIntent startedAt userId phase requesterAddress reservePhase => s.committed
    (ensureIntent column (s.transaction startedAt userId) userId deploymentId phase requesterAddress reservePhase s.events)
  | .recordResult startedAt userId input requesterAddress prepared => s.committed
    (recordResult column (s.transaction startedAt userId) deploymentId input requesterAddress prepared s.events)
  | .appendReconcile startedAt userId requesterAddress finding => s.committed
    (appendReconcile column (s.transaction startedAt userId) requesterAddress finding s.events)
  | .appendOperation startedAt userId requesterAddress intent identity transactionHash uriDigest => s.committed
    (appendOperation column (s.transaction startedAt userId) requesterAddress intent identity transactionHash uriDigest
      s.events)
  | .deployment userId => (.ok (s.rows userId), s)
  | .events => (.ok (eventsOf s.events), s)
  | .agentCardEndpoint _ => (.ok "https://agent.example/.well-known/agent-card.json", s)
  | .finalizedIdentity .. => (.ok none, s)
  | .finalizedBlock => (.ok 100, s)
  | .receipt _ => (.ok none, s)
  | .findRegistered .. => (.ok [], s)
  | .readAgent .. => (.ok none, s)

def respond (i : Nat) (op : RegistrationCall) (s : RegistrationState) : op.Answer × RegistrationState :=
  let (answer, after) := s.answers column deploymentId op
  (answer, { after with log := s.log ++ [(i, ⟨op, answer⟩)] })

variable {column deploymentId}

theorem RegistrationState.answers_exec (s : RegistrationState) (op : RegistrationCall) :
    op.exec column deploymentId s (s.answers column deploymentId op).1 (s.answers column deploymentId op).2 := by
  cases op with
  | ensureIntent | recordResult | appendReconcile | appendOperation =>
    exact ⟨s.transaction _ _, s.transaction_meets _ _, s.committed_commits _⟩
  | begin | deployment | events => exact ⟨rfl, .inl rfl⟩
  | agentCardEndpoint | finalizedIdentity | finalizedBlock | receipt | findRegistered | readAgent => rfl

theorem RegistrationState.answers_beside (s : RegistrationState) (op : RegistrationCall) :
    (s.answers column deploymentId op).2.rows = s.rows ∧ (s.answers column deploymentId op).2.now = s.now := by
  have committed : ∀ {α : Type} (result : Except RegistrationFailure (α × List EventRow)),
      (s.committed result).2.rows = s.rows ∧ (s.committed result).2.now = s.now := by
    intro α result
    cases result <;> exact ⟨rfl, rfl⟩
  cases op with
  | ensureIntent | recordResult | appendReconcile | appendOperation => exact committed _
  | _ => exact ⟨rfl, rfl⟩

theorem exec_log {s s' : RegistrationState} {op : RegistrationCall} {answer : op.Answer}
    (called : op.exec column deploymentId s answer s')
    (log : List (Nat × RegistrationEntry)) : op.exec column deploymentId s answer { s' with log } := by
  cases op <;> exact called

theorem steps_of_runs {permits : Circumstance} {i : Nat} {request : RegistrationRequest}
    {program : Program RegistrationCall RegistrationCall.Answer RegistrationOutcome} {s s' : RegistrationState}
      {result : RegistrationOutcome}
    {threads : List (Thread RegistrationRequest RegistrationCall RegistrationCall.Answer RegistrationOutcome)}
    (found : threads[i]? = some ⟨request, program⟩)
    (run : Runs (registrationExec column deploymentId permits i request) program s result s') :
    Relation.ReflTransGen (registrationSystem column deploymentId permits).Step ⟨s, threads⟩
      ⟨s', threads.set i ⟨request, .done result⟩⟩ := by
  induction run generalizing threads with
  | done =>
    obtain ⟨bound, same⟩ := List.getElem?_eq_some_iff.mp found
    rw [← same, List.set_getElem_self]
  | call stepped _ ih =>
    have first := @System.Step.call _ _ _ _ _ (registrationSystem column deploymentId permits) ⟨_, threads⟩ i request _ _
      _ _ found
      stepped
    have rest := ih (List.getElem?_set_self (List.getElem?_eq_some_iff.mp found).1)
    rw [List.set_set] at rest
    exact .head first rest

theorem answered_alone {permits : Circumstance} {holds : RegistrationState → Prop} {s : RegistrationState}
    {threads : List (Thread RegistrationRequest RegistrationCall RegistrationCall.Answer RegistrationOutcome)}
    (kept : ∀ i op s, holds s → permits s op (s.answers column deploymentId op).1 ∧ holds
      (respond column deploymentId i op s).2)
    (start : holds s) (request : RegistrationRequest) :
    let run := (request.work deploymentId).run.eval (respond column deploymentId threads.length) s
    Relation.ReflTransGen (registrationSystem column deploymentId permits).Step ⟨s, threads⟩
      ⟨run.2, threads ++ [⟨request, .done run.1⟩]⟩ := by
  have played : ∀ {α : Type} (program : Program RegistrationCall RegistrationCall.Answer α) s, holds s →
      Runs (registrationExec column deploymentId permits threads.length request) program s
          (program.eval (respond column deploymentId threads.length) s).1
          (program.eval (respond column deploymentId threads.length) s).2 := by
    intro α program
    induction program with
    | done value => exact fun s held => .done
    | call op next ih =>
      intro s held
      obtain ⟨permitted, still⟩ := kept threads.length op s held
      obtain ⟨rows, now⟩ := s.answers_beside op
      refine .call ?_ (ih _ _ still)
      exact ⟨permitted, exec_log (s.answers_exec op) _, rows, now, rfl⟩
  have first : (registrationSystem column deploymentId permits).Step ⟨s, threads⟩
      ⟨s, threads ++ [⟨request, (request.work deploymentId).run⟩]⟩ := System.Step.start trivial
  have rest := steps_of_runs List.getElem?_concat_length (played (request.work deploymentId).run s start)
  rw [List.set_append_right _ _ (Nat.le_refl _), Nat.sub_self] at rest
  exact .head first rest

end

section
variable {α β : Type} {answer : (op : RegistrationCall) → RegistrationState → op.Answer × RegistrationState}
  {op : RegistrationCall} {s s' : RegistrationState}

theorem eval_asked {value : op.Value} (given : answer op s = (.ok value, s')) :
    (ask op : Work op.Value).run.eval answer s = (.ok value, s') := given

theorem eval_asked_bind {value : op.Value} {rest : op.Value → Work β} (given : answer op s = (.ok value, s')) :
    (ask op >>= rest).run.eval answer s = (rest value).run.eval answer s' := by
  rw [Program.eval_except_bind, eval_asked given]

theorem eval_settled (result : Except RegistrationFailure α) : (liftM result : Work α).run.eval answer s = (result, s) := by
  cases result <;> rfl

theorem eval_settled_bind {result : Except RegistrationFailure α} {value : α} {rest : α → Work β} (given : result = .ok value) :
    (liftM result >>= rest : Work β).run.eval answer s = (rest value).run.eval answer s := by
  rw [Program.eval_except_bind, eval_settled, given]

theorem eval_map (change : α → β) (work : Work α) :
    (change <$> work).run.eval answer s = ((work.run.eval answer s).1.map change, (work.run.eval answer s).2) := by
  rw [map_eq_pure_bind, Program.eval_except_bind]
  cases work.run.eval answer s with
  | mk result s' => cases result <;> rfl

end

section
variable [Sha256] [ByteDigests] [RegistrationSdk] {column : JsonbColumn} {deploymentId : String} {s : RegistrationState}
  {i : Nat}

theorem respond_ensureIntent {startedAt : Int} {userId : String} {phase : Option CreatorRegistrationPhase}
    {requesterAddress : Option String} {reservePhase : Bool} {prepared : Prepared} {after : List EventRow}
    (done : ensureIntent column (s.transaction startedAt userId) userId deploymentId phase requesterAddress reservePhase
      s.events =
      .ok (prepared, after)) :
    ∃ log, respond column deploymentId i (.ensureIntent startedAt userId phase requesterAddress reservePhase) s =
      (.ok prepared, { s with events := after, log }) := by
  simp only [respond, RegistrationState.answers, done, RegistrationState.committed]
  exact ⟨_, rfl⟩

theorem respond_recordResult {startedAt : Int} {userId : String} {input : CreatorRegistrationResultInput}
    {requesterAddress : Option String} {intent : CreatorRegistrationIntent} {outcome : Option CreatorRegistrationStatus}
    {after : List EventRow}
    (done : recordResult column (s.transaction startedAt userId) deploymentId input requesterAddress intent s.events =
      .ok (outcome, after)) :
    ∃ log, respond column deploymentId i (.recordResult startedAt userId input requesterAddress intent) s =
      (.ok outcome, { s with events := after, log }) := by
  simp only [respond, RegistrationState.answers, done, RegistrationState.committed]
  exact ⟨_, rfl⟩

theorem respond_read {op : RegistrationCall} {value : op.Value}
    (reads : s.answers column deploymentId op = (.ok value, s)) :
    ∃ log, respond column deploymentId i op s = (.ok value, { s with log }) := by
  simp only [respond, reads]
  exact ⟨_, rfl⟩

def Alone (column : JsonbColumn) (deploymentId : String) (i : Nat) (s : RegistrationState) (request : RegistrationRequest)
    (response : RegistrationResponse) (after : List EventRow) : Prop :=
  ∃ log, (request.work deploymentId).run.eval (respond column deploymentId i) s =
    (.ok response, { s with events := after, log })

theorem RegistrationReach.alone {permits : Circumstance} {request : RegistrationRequest} {response : RegistrationResponse}
    {after : List EventRow}
    {threads : List (Thread RegistrationRequest RegistrationCall RegistrationCall.Answer RegistrationOutcome)}
    (reach : RegistrationReach column deploymentId permits ⟨s, threads⟩)
    (permitted : ∀ op (later : RegistrationState), later.rows = s.rows → permits later op
      (later.answers column deploymentId op).1)
    (alone : Alone column deploymentId threads.length s request response after) :
    ∃ log, RegistrationReach column deploymentId permits
        ⟨{ s with events := after, log }, threads ++ [⟨request, .done (.ok response)⟩]⟩ ∧
      Relation.ReflTransGen (registrationSystem column deploymentId permits).Step ⟨s, threads⟩
        ⟨{ s with events := after, log }, threads ++ [⟨request, .done (.ok response)⟩]⟩ := by
  obtain ⟨log, evaluated⟩ := alone
  have run := @answered_alone _ _ _ column deploymentId permits (fun later => later.rows = s.rows) s threads
    (fun i op later same => ⟨permitted op later same, (later.answers_beside op).1.trans same⟩) rfl request
  rw [evaluated] at run
  refine ⟨log, ?_, run⟩
  have reached : ∀ pool, Relation.ReflTransGen (registrationSystem column deploymentId permits).Step ⟨s, threads⟩ pool →
      RegistrationReach column deploymentId permits pool := by
    intro pool steps
    induction steps with
    | refl => exact reach
    | tail _ step ih => exact ih.next step
  exact reached _ run

theorem prepare_alone {phase : CreatorRegistrationPhase} {userId : String} {requesterAddress : Option String}
    {prepared : Prepared}
    {after : List EventRow} {response : CreatorRegistrationPrepareResponse}
    (done : ensureIntent column (s.transaction s.now userId) userId deploymentId (some phase) requesterAddress true s.events =
      .ok (prepared, after)) (made : prepareResponse deploymentId phase prepared = .ok response) :
    Alone column deploymentId i s (.prepare userId phase requesterAddress) (.prepared response) after := by
  obtain ⟨began, begin⟩ := @respond_read _ _ _ column deploymentId s i .begin s.now rfl
  obtain ⟨log, ensured⟩ := @respond_ensureIntent _ _ _ column deploymentId { s with log := began } i _ _ _ _ _ _ _ done
  refine ⟨log, ?_⟩
  rw [RegistrationRequest.work, eval_map, prepare, ensureIntentCall, bind_assoc, eval_asked_bind begin, eval_asked_bind ensured,
    eval_settled, made]
  rfl

theorem recordResult_alone {input : CreatorRegistrationResultInput} {userId : String} {requesterAddress : Option String}
    {prepared : Prepared} {middle after : List EventRow} {stored : Option CreatorRegistrationIntent}
    {status : CreatorRegistrationStatus}
    (done : ensureIntent column (s.transaction s.now userId) userId deploymentId (some input.phase) requesterAddress false
      s.events =
      .ok (prepared, middle))
    (recorded : recordResult column (({ s with events := middle } : RegistrationState).transaction s.now userId)
      deploymentId input
      requesterAddress prepared.intent middle = .ok (none, after))
    (read : asIntent (eventsOf after) deploymentId = .ok stored)
    (shown : statusFromEvents deploymentId (eventsOf after) (stored.getD prepared.intent) = .ok status) :
    Alone column deploymentId i s (.recordResult userId input requesterAddress) (.status status) after := by
  obtain ⟨began, begin⟩ := @respond_read _ _ _ column deploymentId s i .begin s.now rfl
  obtain ⟨log, ensured⟩ := @respond_ensureIntent _ _ _ column deploymentId { s with log := began } i _ _ _ _ _ _ _ done
  obtain ⟨again, began'⟩ := @respond_read _ _ _ column deploymentId { s with events := middle, log } i .begin s.now rfl
  obtain ⟨log', written⟩ := @respond_recordResult _ _ _ column deploymentId { s with events := middle, log := again } i _
    _ _ _ _ _ _
    recorded
  obtain ⟨last, refreshed⟩ := @respond_read _ _ _ column deploymentId { s with events := after, log := log' } i .events _ rfl
  refine ⟨last, ?_⟩
  rw [RegistrationRequest.work, eval_map, recordResultCall, ensureIntentCall, bind_assoc, eval_asked_bind begin,
    eval_asked_bind ensured, eval_asked_bind began', eval_asked_bind written, afterResult, eval_asked_bind refreshed,
    eval_settled_bind read, eval_settled, shown]
  rfl

end

def digestOf (text : String) : Digest := (TextFormat.normalize ⟨isDigest, isDigest_lower⟩ text).getD (nullSha256.sha256Hex "")

@[reducible] def configurationSha256 : Sha256 where
  sha256Hex _ := ⟨"d7d6800ff98dd52b81d333de481ddc01cd50146b1103ba221fb100b227b1cea9", by decide +kernel, by decide +kernel⟩

/-- A platform hash that is right on the deployment and the files of the samples, which differ in length. -/
@[reducible] def registrationDigests : ByteDigests where
  sha256Hex bytes := digestOf (match bytes.length with
    | 36 => "a94c597ba585aafb091a6b883bcf1bb83e8cc0fa6252e6896f536dc6b8bed36a"
    | 625 => "4657a2266071116e4e001da9c7fffcac08998ad3ec8172026cbc3b468015a9d0"
    | 626 => "db0df4ad16089b3bb7076c0c008ce2b1efae02d3b24d3a7f47642ab0b0fa00cd"
    | 709 => "bb7994ea4da410941318d69f6a3727ddb7272767ef0ce6316aa707bb98ce27d4"
    | _ => "bfe3dce949e72f1bbd17273d8e035ce9d56f4530a38062f9b8a03a732ba0701a")
  keccak256Hex _ := nullSha256.sha256Hex ""

@[reducible] def registrationSdk : RegistrationSdk where
  templateArtifactDigest := "adbb998c891bc731824eda8140581abc9a7f71416f5991649a334d4d1d5d5b44"
  withErc8004Registration file agentId chainId := .ok (.obj (setField (eventRefs file) "registrations" (.arr [.obj
    [("agentId", .nat agentId),
      ("agentRegistry", .str ("eip155:" ++ Nat.repr chainId ++ ":" ++ creatorErc8004Registry))]])))

section
attribute [local instance] configurationSha256 registrationDigests registrationSdk

def sampleDeployment : String := "3f0c2a54-7d1e-4b60-9a3c-5e8d21f4b7a9"

def sampleEndpoint : String := "https://agent.example/.well-known/agent-card.json"

def sampleRegistration (name : String) : DeploymentRow where
  creatorUserId := "user-1"
  publicUrl := some sampleEndpoint
  name := name
  description := "Swaps once."
  configuration := Creator.sampleConfiguration.json
  configurationDigest := canonicalRuntimeConfigurationDigest Creator.sampleConfiguration
  adminWallet := some "0xa11ce00000000000000000000000000000000001"
  executionWallet := some "0x5e55100000000000000000000000000000000002"

def sampleFile (name : String) : Json :=
  creatorRegistrationFile name "Swaps once." sampleEndpoint Creator.sampleConfiguration
    (canonicalRuntimeConfigurationDigest Creator.sampleConfiguration)

def sampleIntent (name : String) : CreatorRegistrationIntent where
  deploymentId := sampleDeployment
  operationId := operationIdFor sampleDeployment
  ownerAddress := "0xa11ce00000000000000000000000000000000001"
  agentWallet := "0x5e55100000000000000000000000000000000002"
  endpoint := sampleEndpoint
  name := name
  description := "Swaps once."
  configuration := Creator.sampleConfiguration
  configurationDigest := canonicalRuntimeConfigurationDigest Creator.sampleConfiguration
  registrationFile := sampleFile name
  registrationUri := encodeErc8004AgentUri (sampleFile name)
  uriDigest := creatorRegistrationUriDigest (encodeErc8004AgentUri (sampleFile name))

theorem sample_bound : (sampleFile "Agent").bound ≤ 1475 ∧ (sampleFile "Trader").bound ≤ 1475 := by decide +kernel

theorem sampleConfiguration_asserted :
    assertConfiguration (some Creator.sampleConfiguration.json)
      (canonicalRuntimeConfigurationDigest Creator.sampleConfiguration) =
      .ok Creator.sampleConfiguration := by
  rw [assertConfiguration, canonicalRuntimeConfiguration_json (SameJson.refl _)]
  exact if_neg (not_not.mpr rfl)

theorem sample_built {name : String} (small : (sampleFile name).bound ≤ 1475) :
    buildIntent "user-1" sampleDeployment (some (sampleRegistration name)) none (fun _ => .ok sampleEndpoint) =
      .ok (sampleIntent name) := by
  have usable : deployment (some (sampleRegistration name)) none = .ok (sampleRegistration name, sampleEndpoint,
      "0xa11ce00000000000000000000000000000000001", "0x5e55100000000000000000000000000000000002") := rfl
  have made : builtIntent sampleDeployment (sampleRegistration name) "0xa11ce00000000000000000000000000000000001"
      "0x5e55100000000000000000000000000000000002" sampleEndpoint = .ok (sampleIntent name) :=
    bind_eq_ok.mpr ⟨_, sampleConfiguration_asserted, bind_eq_ok.mpr ⟨_, encodedCreatorRegistrationUri_ok small, rfl⟩⟩
  have same : ¬(sampleRegistration name).creatorUserId ≠ "user-1" := not_not.mpr rfl
  exact bind_eq_ok.mpr ⟨_, usable, bind_eq_ok.mpr ⟨(), refuseIf_eq_ok.mpr same, bind_eq_ok.mpr ⟨_, rfl, made⟩⟩⟩

end

end Bnbera.Registration
