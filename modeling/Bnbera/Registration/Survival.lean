import Bnbera.Registration.Grants

namespace Bnbera.Registration

open Creator Interleaving Publication

section
variable [Sha256] [ByteDigests] [RegistrationSdk]

/-- The transaction that stores the first intent of a deployment: who reads the events then reads that intent back where it
survives, and nothing where it does not. -/
theorem firstIntent_read {column : JsonbColumn} {deploymentId : String} {transaction : Transaction} {userId : String}
    {phase : Option CreatorRegistrationPhase} {requesterAddress : Option String} {reservePhase : Bool} {table after : List EventRow}
    {prepared : Prepared} (first : ∀ event ∈ table, event.statusMessage ≠ .intent)
    (done : ensureIntent column transaction userId deploymentId phase requesterAddress reservePhase table = .ok (prepared, after)) :
    asIntent (eventsOf after) deploymentId = .ok (some prepared.intent) ∧ Survives column prepared.intent ∨
      asIntent (eventsOf after) deploymentId = .ok none ∧ ¬Survives column prepared.intent := by
  obtain ⟨stored, status, kept, _, reserved, _⟩ := ensureIntent_eq_ok done
  have unread : lastIntent (eventsOf table) = none := lastIntent_none.mpr fun event member => first event (mem_eventsOf.mp member)
  rcases storedIntent_eq_ok kept with ⟨found, _⟩ | ⟨_, made, rfl⟩
  · rw [asIntent, unread] at found
    cases found
  · -- the reservation adds no other event with an intent
    have only : ∀ event ∈ after, event.statusMessage = .intent →
        event = recordedRow column transaction table .intent (intentRefs prepared.intent) none true := by
      have before : ∀ event ∈ table ++ [recordedRow column transaction table .intent (intentRefs prepared.intent) none true],
          event.statusMessage = .intent → event = recordedRow column transaction table .intent (intentRefs prepared.intent) none true := by
        intro event member message
        rcases List.mem_append.mp member with old | new
        · exact absurd message (first event old)
        · exact List.mem_singleton.mp new
      rcases reserve_eq_ok reserved with ⟨_, rfl⟩ | ⟨asked, _, _, _, reserves⟩
      · exact before
      · intro event member message
        cases reserves with
        | mint | uri =>
          rcases List.mem_append.mp member with old | new
          · exact before event old message
          · rw [List.mem_singleton.mp new] at message
            cases message
    have there : recordedRow column transaction table .intent (intentRefs prepared.intent) none true ∈ after := by
      have stored := List.mem_append_right table (List.mem_singleton_self
        (recordedRow column transaction table .intent (intentRefs prepared.intent) none true))
      rcases reserve_eq_ok reserved with ⟨_, rfl⟩ | ⟨asked, _, _, _, reserves⟩
      · exact stored
      · cases reserves <;> exact List.mem_append_left _ stored
    cases last : lastIntent (eventsOf after) with
    | none => exact absurd rfl (lastIntent_none.mp last _ (mem_eventsOf.mpr there))
    | some event =>
      obtain ⟨member, message⟩ := lastIntent_mem last
      have same := only event (mem_eventsOf.mp member) message
      exact asIntent_stored (buildIntent_built made).1 last (by rw [same]; rfl)

/-- An intent comes back from storage exactly where the column keeps the order of the keys of its file and its texts are not
empty. In every run in which the intents that may be built come back, at most one is stored, and whoever starts behind
it shows it. -/
theorem registration_intent_survives (column : JsonbColumn) (deploymentId : String) :
    (∀ transaction userId phase requesterAddress reservePhase table prepared after,
      (∀ event ∈ table, event.statusMessage ≠ .intent) →
      ensureIntent column transaction userId deploymentId phase requesterAddress reservePhase table = .ok (prepared, after) →
      (asIntent (eventsOf after) deploymentId = .ok (some prepared.intent) ↔ Survives column prepared.intent)) ∧
    ∀ pool, RegistrationReach column deploymentId (Keeping column deploymentId) pool →
      (pool.state.events.filter (·.statusMessage = .intent)).length ≤ 1 ∧
      ∀ event ∈ pool.state.events, event.statusMessage = .intent → ∃ intent,
        event.externalResourceReferences = column.read (.obj (intentRefs intent)) ∧
        asIntent (eventsOf pool.state.events) deploymentId = .ok (some intent) ∧
        ∀ later, Relation.ReflTransGen (registrationSystem column deploymentId (Keeping column deploymentId)).Step pool later →
          ∀ j request response, pool.threads.length ≤ j → later.threads[j]? = some ⟨request, .done (.ok response)⟩ →
            ShowsIntent intent response := by
  refine ⟨?_, fun pool reach => ⟨reach.lasting.one.once, fun event member message => ?_⟩⟩
  · intro transaction userId phase requesterAddress reservePhase table prepared after first done
    rcases firstIntent_read first done with ⟨read, survives⟩ | ⟨read, lost⟩
    · exact ⟨fun _ => survives, fun _ => read⟩
    · rw [read]
      exact ⟨fun absent => (nomatch absent), fun survives => absurd survives lost⟩
  · obtain ⟨intent, stores⟩ := reach.lasting.one.stored event member message
    refine ⟨intent, stores.refs, reach.lasting.one.read (fun _ => mem_eventsOf.mp) (mem_eventsOf.mpr member) stores, ?_⟩
    intro later run j request response beyond found
    exact (reach.later member run).shows stores beyond found

end

/-- The order in which PostgreSQL keeps the keys of an object: shorter ones come first, and those of one length in the order of
their bytes. -/
def KeyPrecedes (a b : String) : Prop := a.utf8ByteSize < b.utf8ByteSize ∨ a.utf8ByteSize = b.utf8ByteSize ∧ a ≤ b

instance : DecidableRel KeyPrecedes := fun a b =>
  inferInstanceAs (Decidable (a.utf8ByteSize < b.utf8ByteSize ∨ a.utf8ByteSize = b.utf8ByteSize ∧ a ≤ b))

mutual

def jsonbJson : Json → Json
  | .null => .null
  | .bool value => .bool value
  | .num text => .num text
  | .str text => .str text
  | .arr items => .arr (jsonbItems items)
  | .obj fields => .obj ((jsonbFields fields).insertionSort fun a b => KeyPrecedes a.1 b.1)

def jsonbItems : List Json → List Json
  | [] => []
  | item :: rest => jsonbJson item :: jsonbItems rest

def jsonbFields : List (String × Json) → List (String × Json)
  | [] => []
  | (key, value) :: rest => (key, jsonbJson value) :: jsonbFields rest

end

mutual

theorem jsonbJson_same : ∀ value : Json, SameJson value (jsonbJson value)
  | .null => .null
  | .bool value => .bool value
  | .num text => .num text
  | .str text => .str text
  | .arr items => .arr (jsonbItems_same items)
  | .obj fields => .obj (jsonbFields_same fields) (List.perm_insertionSort _ _).symm

theorem jsonbItems_same : ∀ items : List Json, SameItems items (jsonbItems items)
  | [] => .nil
  | item :: rest => .cons (jsonbJson_same item) (jsonbItems_same rest)

theorem jsonbFields_same : ∀ fields : List (String × Json), SameFields fields (jsonbFields fields)
  | [] => .nil
  | (_, value) :: rest => .cons (jsonbJson_same value) (jsonbFields_same rest)

end

/-- A `jsonb` column of PostgreSQL. -/
def jsonbColumn : JsonbColumn := ⟨jsonbJson, jsonbJson_same⟩

theorem jsonbFields_field (fields : List (String × Json)) (key : String) :
    fieldOf (jsonbFields fields) key = (fieldOf fields key).map jsonbJson := by
  induction fields with
  | nil => rfl
  | cons field rest ih =>
    obtain ⟨k, value⟩ := field
    rw [jsonbFields, fieldOf_cons, fieldOf_cons, ih]
    split <;> rfl

theorem jsonbJson_field {fields : List (String × Json)} (nodup : (fields.map (·.1)).Nodup) (key : String) :
    fieldOf (eventRefs (jsonbJson (.obj fields))) key = (fieldOf fields key).map jsonbJson := by
  rw [(jsonbFields_same fields).keys] at nodup
  rw [← jsonbFields_field]
  exact (fieldOf_perm nodup (List.perm_insertionSort _ _).symm key).symm

theorem jsonbJson_keys (fields : List (String × Json)) :
    (eventRefs (jsonbJson (.obj fields))).map (·.1) = (fields.map (·.1)).insertionSort KeyPrecedes := by
  rw [(jsonbFields_same fields).keys]
  exact List.map_insertionSort _ _ _ _ fun _ _ _ _ => Iff.rfl

section
attribute [local instance] configurationSha256 registrationDigests registrationSdk

theorem sample_lost (name : String) : ¬Survives jsonbColumn (sampleIntent name) := by
  intro survives
  have found := survives.file
  change fieldOf (eventRefs (jsonbJson (.obj (intentRefs (sampleIntent name))))) "registrationFile" = some (sampleFile name) at found
  rw [jsonbJson_field (intentRefs_nodup _)] at found
  have same : jsonbJson (sampleFile name) = sampleFile name := Option.some.inj found
  obtain ⟨fields, shape, written⟩ : ∃ fields, sampleFile name = .obj fields ∧
      fields.map (·.1) = ["type", "name", "description", "services", "registrations", "x-bnbera"] := ⟨_, rfl, rfl⟩
  have keys := jsonbJson_keys fields
  rw [← shape, same, shape] at keys
  have back : (eventRefs (.obj fields)).map (·.1) = fields.map (·.1) := rfl
  rw [back, written] at keys
  exact absurd keys (by decide +kernel)

theorem sample_keeping (op : RegistrationCall) (s : RegistrationState) (answer : op.Answer)
    (rows : s.rows = fun _ => some (sampleRegistration "Agent")) : Keeping writtenColumn sampleDeployment s op answer := by
  cases op with
  | ensureIntent startedAt userId phase requesterAddress reservePhase =>
    intro agentCardEndpoint intent endpoints made
    rw [rows] at made
    obtain ⟨_, publicUrl, answered⟩ := buildIntent_built made
    obtain ⟨⟨row, _, adminWallet, executionWallet⟩, usable, rest⟩ := bind_eq_ok.mp made
    obtain ⟨_, _, rest⟩ := bind_eq_ok.mp rest
    obtain ⟨endpoint, _, rest⟩ := bind_eq_ok.mp rest
    obtain ⟨configuration, _, rest⟩ := bind_eq_ok.mp rest
    obtain ⟨uri, _, rest⟩ := bind_eq_ok.mp rest
    have found : row = sampleRegistration "Agent" ∧ adminWallet = "0xa11ce00000000000000000000000000000000001" ∧
        executionWallet = "0x5e55100000000000000000000000000000000002" := by
      dsimp only [deployment, sampleRegistration] at usable
      split at usable
      · cases usable
      · cases usable
        exact ⟨rfl, rfl, rfl⟩
    obtain ⟨rfl, rfl, rfl⟩ := found
    cases rest
    exact ⟨rfl, endpoints publicUrl _ answered, sample_survives.ownerAddress, sample_survives.agentWallet, sample_survives.name⟩
  | _ => exact trivial

/-- A page that is loaded again behind the first prepare shows the intent that was stored then. -/
theorem registration_intent_survives_sample :
    asIntent (eventsOf (mintTable (sampleIntent "Agent"))) sampleDeployment = .ok (some (sampleIntent "Agent")) ∧
      ∃ pool later response, RegistrationReach writtenColumn sampleDeployment (Keeping writtenColumn sampleDeployment) pool ∧
        Relation.ReflTransGen (registrationSystem writtenColumn sampleDeployment (Keeping writtenColumn sampleDeployment)).Step
          pool later ∧ later.threads[1]? = some ⟨.prepare "user-1" .mint none, .done (.ok (.prepared response))⟩ ∧
        ShowsIntent (sampleIntent "Agent") (.prepared response) := by
  obtain ⟨stored, runs⟩ := registration_intent_survives writtenColumn sampleDeployment
  refine ⟨(stored _ _ _ _ _ [] _ _ (fun _ member => (List.not_mem_nil member).elim) (sample_mint [])).mpr sample_survives, ?_⟩
  have blank : RegistrationReach writtenColumn sampleDeployment (Keeping writtenColumn sampleDeployment) ⟨sampleState [] [], []⟩ :=
    .start ⟨fun _ member => (List.not_mem_nil member).elim, rfl⟩
  obtain ⟨log, first, _⟩ := blank.alone (fun op later same => sample_keeping op later _ same)
    (prepare_alone (sample_mint []) rfl)
  have made : prepareResponse sampleDeployment .mint ⟨sampleIntent "Agent", eventsOf (mintTable (sampleIntent "Agent")), false⟩ =
      .ok _ := rfl
  obtain ⟨log', second, run⟩ := RegistrationReach.alone first (fun op later same => sample_keeping op later _ same)
    (prepare_alone (sample_unreserved log rfl rfl rfl) made)
  obtain ⟨_, kept⟩ := runs _ first
  obtain ⟨intent, _, read, shows⟩ := kept _ List.mem_cons_self rfl
  rw [sample_stored rfl] at read
  cases read
  exact ⟨_, _, _, first, run, rfl, shows _ run 1 _ _ (Nat.le_refl 1) rfl⟩

def keptIntent (id : Nat) (name : String) : EventRow :=
  ⟨.intent, jsonbJson (.obj (intentRefs (sampleIntent name))), none, true, 0, id⟩

theorem keptIntent_unread : asIntent (eventsOf [keptIntent 0 "Agent"]) sampleDeployment = .ok none := by
  have built := (buildIntent_built (sample_built sample_bound.1)).1
  have last : lastIntent (eventsOf [keptIntent 0 "Agent"]) = some (keptIntent 0 "Agent") := rfl
  have kept : (keptIntent 0 "Agent").externalResourceReferences = jsonbColumn.read (.obj (intentRefs (sampleIntent "Agent"))) := rfl
  rcases asIntent_stored built last kept with ⟨_, survives⟩ | ⟨unread, _⟩
  · exact absurd survives (sample_lost "Agent")
  · exact unread

/-- In the order in which PostgreSQL keeps keys the first intent is not read back, and where the draft was renamed in between
a second one with another URI is stored beside it. -/
theorem registration_intent_replaced : ∃ before after first second,
    ensureIntent jsonbColumn ((sampleState [] []).transaction 0 "user-1") "user-1" sampleDeployment none none true [] =
        .ok (first, before) ∧
      asIntent (eventsOf before) sampleDeployment = .ok none ∧
      ensureIntent jsonbColumn ((⟨before, fun _ => some (sampleRegistration "Trader"), 0, []⟩ : RegistrationState).transaction 0 "user-1")
        "user-1" sampleDeployment none none true before = .ok (second, after) ∧
      (after.filter (·.statusMessage = .intent)).length = 2 ∧ second.intent.registrationUri ≠ first.intent.registrationUri := by
  have stored : storedIntent jsonbColumn ((sampleState [] []).transaction 0 "user-1") "user-1" sampleDeployment none [] =
      .ok (sampleIntent "Agent", [keptIntent 0 "Agent"]) :=
    bind_eq_ok.mpr ⟨none, rfl, bind_eq_ok.mpr ⟨_, sample_built sample_bound.1, rfl⟩⟩
  have first : ensureIntent jsonbColumn ((sampleState [] []).transaction 0 "user-1") "user-1" sampleDeployment none none true [] =
      .ok (⟨sampleIntent "Agent", eventsOf [keptIntent 0 "Agent"], false⟩, [keptIntent 0 "Agent"]) :=
    bind_eq_ok.mpr ⟨_, rfl, bind_eq_ok.mpr ⟨_, stored, bind_eq_ok.mpr ⟨_, rfl, bind_eq_ok.mpr ⟨_, rfl, rfl⟩⟩⟩⟩
  let renamed : RegistrationState := ⟨[keptIntent 0 "Agent"], fun _ => some (sampleRegistration "Trader"), 0, []⟩
  have stored' : storedIntent jsonbColumn (renamed.transaction 0 "user-1") "user-1" sampleDeployment none [keptIntent 0 "Agent"] =
      .ok (sampleIntent "Trader", [keptIntent 0 "Agent", keptIntent 2 "Trader"]) :=
    bind_eq_ok.mpr ⟨none, keptIntent_unread, bind_eq_ok.mpr ⟨_, sample_built sample_bound.2, rfl⟩⟩
  have second : ensureIntent jsonbColumn (renamed.transaction 0 "user-1") "user-1" sampleDeployment none none true
      [keptIntent 0 "Agent"] = .ok (⟨sampleIntent "Trader", eventsOf [keptIntent 0 "Agent", keptIntent 2 "Trader"], false⟩,
        [keptIntent 0 "Agent", keptIntent 2 "Trader"]) :=
    bind_eq_ok.mpr ⟨_, rfl, bind_eq_ok.mpr ⟨_, stored', bind_eq_ok.mpr ⟨_, rfl, bind_eq_ok.mpr ⟨_, rfl, rfl⟩⟩⟩⟩
  refine ⟨_, _, _, _, first, keptIntent_unread, second, rfl, fun same => ?_⟩
  have files : sampleFile "Trader" = sampleFile "Agent" :=
    encodeErc8004AgentUri_injective (creatorRegistrationFile_wellFormed _ _ _ _ _) (creatorRegistrationFile_wellFormed _ _ _ _ _) same
  have names : some (Json.str "Trader") = some (Json.str "Agent") := congrArg (fun file => fieldOf (eventRefs file) "name") files
  exact absurd (Json.str.inj (Option.some.inj names)) (by decide)

end

end Bnbera.Registration
