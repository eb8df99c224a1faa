import Bnbera.Registration.Outcomes

namespace Bnbera.Registration

open Creator Publication

theorem toList_loop (data : ByteArray) (i : Nat) (read : List UInt8) :
    ByteArray.toList.loop data i read = read.reverse ++ data.data.toList.drop i := by
  induction i, read using ByteArray.toList.loop.induct data with
  | case1 i read inside ih =>
    have bound : i < data.data.toList.length := by simpa using inside
    have byte : data.get! i = data.data.toList[i] := getElem!_pos data.data i inside
    rw [ByteArray.toList.loop, if_pos inside, ih, List.drop_eq_getElem_cons bound, byte, List.reverse_cons,
      List.append_assoc, List.singleton_append]
  | case2 i read beyond =>
    have bound : data.data.toList.length ≤ i := by simpa using beyond
    rw [ByteArray.toList.loop, if_neg beyond, List.drop_eq_nil_of_le bound, List.append_nil]

theorem utf8_injective {a b : String} (same : utf8 a = utf8 b) : a = b := by
  have bytes : ∀ data : ByteArray, data.toList = data.data.toList := fun data => toList_loop data 0 []
  rw [utf8, utf8, bytes, bytes] at same
  exact String.toByteArray_inj.mp (ByteArray.ext (Array.toList_inj.mp same))

theorem encodeErc8004AgentUri_injective {file file' : Json} (wellFormed : file.wellFormed = true)
    (wellFormed' : file'.wellFormed = true) (same : encodeErc8004AgentUri file = encodeErc8004AgentUri file') : file = file' := by
  have texts := congrArg String.toList same
  rw [encodeErc8004AgentUri, encodeErc8004AgentUri, String.toList_append, String.toList_append, List.append_cancel_left_eq,
    String.toList_ofList, String.toList_ofList] at texts
  exact stringifyJson_inj wellFormed wellFormed' (utf8_injective (Base64.encode_injective texts))

theorem encodedCreatorRegistrationUri_eq_ok {file : Json} {uri : String} (encoded : encodedCreatorRegistrationUri file = .ok uri) :
    uri = encodeErc8004AgentUri file := by
  unfold encodedCreatorRegistrationUri at encoded
  dsimp only at encoded
  split at encoded
  · cases encoded
  · split at encoded
    · cases encoded
    · exact (Except.ok.inj encoded).symm

theorem repr_injective {a b : Nat} (same : Nat.repr a = Nat.repr b) : a = b :=
  canonicalizeJson_nat (congrArg (fun text => canonicalizeJson (.num text)) same)

section
variable {admitted : List Nat} {number : Nat}

theorem find_admitted {seen : Nat → Bool} (only : ∀ n, seen n = true ↔ n = number) (member : number ∈ admitted) :
    admitted.attach.find? (fun n => seen n.1) = some ⟨number, member⟩ := by
  cases found : admitted.attach.find? (fun n => seen n.1) with
  | none =>
    have missed := List.find?_eq_none.mp found ⟨number, member⟩ (List.mem_attach _ _)
    exact absurd ((only number).mpr rfl) missed
  | some n =>
    have sought := List.find?_some found
    exact congrArg some (Subtype.ext ((only n.1).mp sought))

theorem literalText_repr (member : number ∈ admitted) :
    literalText admitted (some (.str (Nat.repr number))) = some ⟨number, member⟩ := by
  refine @find_admitted admitted number (fun n => isText (Nat.repr n) (some (.str (Nat.repr number)))) (fun n => ?_) member
  rw [isText, decide_eq_true_eq]
  exact ⟨fun same => repr_injective same.symm, fun same => by rw [same]⟩

theorem literalNumber_repr (member : number ∈ admitted) :
    literalNumber admitted (some (.num (Nat.repr number))) = some ⟨number, member⟩ := by
  refine @find_admitted admitted number (fun n => isNumber n (some (.num (Nat.repr number)))) (fun n => ?_) member
  rw [isNumber, decide_eq_true_eq]
  exact ⟨fun same => repr_injective same.symm, fun same => by rw [same]⟩

end

theorem literalPair_text (pair : TradingPair) : literalPair (some (.str pair.text)) = some pair := by
  cases pair <;> decide

theorem blind_literalText (admitted : List Nat) : Blind (literalText admitted) := by
  intro value value' same
  cases same <;> rfl

theorem blind_literalNumber (admitted : List Nat) : Blind (literalNumber admitted) := by
  intro value value' same
  cases same <;> rfl

theorem blind_literalPair : Blind literalPair := by
  intro value value' same
  cases same <;> rfl

theorem Blind.seen {α : Type} {fields fields' : EventReference} {seen : Option Json → α} (blind : Blind seen)
    (each : ∀ key, Option.Rel SameJson (fieldOf fields key) (fieldOf fields' key)) {key : String} {value : Json}
    (written : fieldOf fields key = some value) : seen (fieldOf fields' key) = seen (some value) := by
  rw [← written]
  exact (field_congr blind (each key)).symm

/-- A configuration is read back whatever the order of its fields. -/
theorem canonicalRuntimeConfiguration_json {configuration : CreatorRuntimeConfiguration} {value : Json}
    (same : SameJson configuration.json value) : canonicalRuntimeConfiguration (some value) = some configuration := by
  obtain ⟨fields, rfl, each⟩ := same.fields (by simp)
  have known : fields.all (fun field => configurationKeys.contains field.1) = true := by
    rw [List.all_eq_true]
    intro field member
    rw [List.contains_iff_mem]
    by_contra unknown
    have absent := each field.1
    rw [fieldOf_none_iff.mpr (fun inside => unknown inside)] at absent
    cases found : fieldOf fields field.1 with
    | none => exact fieldOf_none_iff.mp found (List.mem_map_of_mem member)
    | some value =>
      rw [found] at absent
      cases absent
  have protocol : isText "pancakeswap-v2" (fieldOf fields "protocol") = true := by
    rw [(blind_isText "pancakeswap-v2").seen each (show fieldOf _ "protocol" = _ from rfl), isText, decide_eq_true_eq]
  have pair : literalPair (fieldOf fields "tradingPair") = some configuration.tradingPair :=
    (blind_literalPair.seen each rfl).trans (literalPair_text _)
  have amount : literalText _ (fieldOf fields "inputAmountWei") = some ⟨_, configuration.amount_admitted⟩ :=
    ((blind_literalText _).seen each rfl).trans (literalText_repr _)
  have slippage : literalNumber _ (fieldOf fields "slippageBps") = some ⟨_, configuration.slippage_admitted⟩ :=
    ((blind_literalNumber _).seen each rfl).trans (literalNumber_repr _)
  have age : literalNumber _ (fieldOf fields "quoteMaxAgeSeconds") = some ⟨_, configuration.age_admitted⟩ :=
    ((blind_literalNumber _).seen each rfl).trans (literalNumber_repr _)
  have deadline : literalNumber _ (fieldOf fields "deadlineSeconds") = some ⟨_, configuration.deadline_admitted⟩ :=
    ((blind_literalNumber _).seen each rfl).trans (literalNumber_repr _)
  simp only [canonicalRuntimeConfiguration, asObject, Option.bind_eq_bind, Option.bind_some, known, protocol, pair, amount,
    slippage, age, deadline, guard_true, Option.pure_def]

section
variable [Sha256] [ByteDigests] [RegistrationSdk] {deploymentId : String} {intent : CreatorRegistrationIntent}

structure Built (deploymentId : String) (intent : CreatorRegistrationIntent) : Prop where
  ofDeployment : intent.deploymentId = deploymentId
  operationId : intent.operationId = operationIdFor deploymentId
  digest : canonicalRuntimeConfigurationDigest intent.configuration = intent.configurationDigest
  file : intent.registrationFile = creatorRegistrationFile intent.name intent.description intent.endpoint intent.configuration
    intent.configurationDigest
  uri : encodedCreatorRegistrationUri intent.registrationFile = .ok intent.registrationUri
  uriDigest : intent.uriDigest = creatorRegistrationUriDigest intent.registrationUri

theorem builtIntent_built {row : DeploymentRow} {ownerAddress agentWallet endpoint : String}
    (built : builtIntent deploymentId row ownerAddress agentWallet endpoint = .ok intent) :
    Built deploymentId intent ∧ intent.endpoint = endpoint := by
  obtain ⟨configuration, asserted, rest⟩ := bind_eq_ok.mp built
  obtain ⟨uri, encoded, rest⟩ := bind_eq_ok.mp rest
  cases rest
  have digest : canonicalRuntimeConfigurationDigest configuration = row.configurationDigest := by
    unfold assertConfiguration at asserted
    split at asserted
    · cases asserted
    · split at asserted
      · cases asserted
      · rename_i same
        cases asserted
        exact not_not.mp same
  exact ⟨⟨rfl, rfl, digest, rfl, encoded, rfl⟩, rfl⟩

theorem buildIntent_built {userId : String} {row : Option DeploymentRow} {requesterAddress : Option String}
    {agentCardEndpoint : String → Except RegistrationFailure String}
    (built : buildIntent userId deploymentId row requesterAddress agentCardEndpoint = .ok intent) :
    Built deploymentId intent ∧ ∃ publicUrl, agentCardEndpoint publicUrl = .ok intent.endpoint := by
  obtain ⟨⟨usable, publicUrl, adminWallet, executionWallet⟩, _, rest⟩ := bind_eq_ok.mp built
  obtain ⟨_, _, rest⟩ := bind_eq_ok.mp rest
  obtain ⟨endpoint, answered, rest⟩ := bind_eq_ok.mp rest
  obtain ⟨fits, same⟩ := builtIntent_built rest
  exact ⟨fits, publicUrl, same ▸ answered⟩

omit [Sha256] [RegistrationSdk] in
theorem uriDigest_lower (uri : String) : lower (creatorRegistrationUriDigest uri) = creatorRegistrationUriDigest uri := by
  unfold creatorRegistrationUriDigest
  split <;> exact (ByteDigests.sha256Hex _).lowercase

omit [Sha256] [ByteDigests] in
theorem creatorRegistrationFile_wellFormed (name description endpoint : String) (configuration : CreatorRuntimeConfiguration)
    (configurationDigest : String) :
    (creatorRegistrationFile name description endpoint configuration configurationDigest).wellFormed = true := by
  simp [creatorRegistrationFile, Json.wellFormed, wellFormedFields, wellFormedItems]

/-- An intent that comes back from the column: its file has its keys where they were written, and no text of its is empty. -/
structure Survives (column : JsonbColumn) (intent : CreatorRegistrationIntent) : Prop where
  file : fieldOf (eventRefs (column.read (.obj (intentRefs intent)))) "registrationFile" = some intent.registrationFile
  endpoint : intent.endpoint ≠ ""
  ownerAddress : intent.ownerAddress ≠ ""
  agentWallet : intent.agentWallet ≠ ""
  name : intent.name ≠ ""

omit [Sha256] [ByteDigests] [RegistrationSdk] in
theorem asString_text {text : String} (written : text ≠ "") : asString (some (.str text)) = some text := by
  rw [asString, if_neg written]

omit [Sha256] [RegistrationSdk] in
theorem encodesTo_iff (built : encodedCreatorRegistrationUri intent.registrationFile = .ok intent.registrationUri)
    (digest : intent.uriDigest = creatorRegistrationUriDigest intent.registrationUri)
    (wellFormed : intent.registrationFile.wellFormed = true) {file : Json} (same : SameJson intent.registrationFile file) :
    encodesTo file intent.registrationUri intent.uriDigest = true ↔ file = intent.registrationFile := by
  have digests : creatorRegistrationUriDigest intent.registrationUri = lower intent.uriDigest := by
    rw [digest, uriDigest_lower]
  constructor
  · intro encodes
    unfold encodesTo at encodes
    split at encodes
    · cases encodes
    · rename_i uri encoded
      simp only [Bool.and_eq_true, beq_iff_eq] at encodes
      have texts := (encodedCreatorRegistrationUri_eq_ok encoded).symm.trans
        (encodes.1.trans (encodedCreatorRegistrationUri_eq_ok built))
      exact encodeErc8004AgentUri_injective (same.wellFormed wellFormed) wellFormed texts
  · rintro rfl
    rw [encodesTo, built]
    simp only [digests, beq_self_eq_true, Bool.and_self]

omit [Sha256] [ByteDigests] [RegistrationSdk] in
theorem same_some {value : Json} {found : Option Json} (same : Option.Rel SameJson (some value) found) :
    ∃ value', found = some value' ∧ SameJson value value' := by
  cases same with
  | some same => exact ⟨_, rfl, same⟩

/-- The fields of an intent, as they are read from the event that stores it. -/
structure ReadsBack (intent : CreatorRegistrationIntent) (fields file : EventReference) : Prop where
  text : ∀ {key text}, fieldOf (intentRefs intent) key = some (.str text) → asString (fieldOf fields key) = asString (some (.str text))
  found : fieldOf fields "registrationFile" = some (.obj file)
  same : SameJson intent.registrationFile (.obj file)
  configuration : canonicalRuntimeConfiguration (fieldOf fields "configuration") = some intent.configuration

omit [Sha256] [ByteDigests] [RegistrationSdk] in
theorem readsBack {fields : EventReference} (shape : ∃ file, intent.registrationFile = .obj file)
    (each : ∀ key, Option.Rel SameJson (fieldOf (intentRefs intent) key) (fieldOf fields key)) :
    ∃ file, ReadsBack intent fields file := by
  obtain ⟨value, found, same⟩ := same_some (each "registrationFile")
  obtain ⟨settings, kept, alike⟩ := same_some (each "configuration")
  obtain ⟨file, rfl⟩ : ∃ file, value = .obj file := by
    obtain ⟨written, shape⟩ := shape
    rw [shape] at same
    cases same
    exact ⟨_, rfl⟩
  exact ⟨file, fun written => blind_asString.seen each written, found, same, kept ▸ canonicalRuntimeConfiguration_json alike⟩

theorem extension_readsBack (built : Built deploymentId intent) {fields file : EventReference}
    (reads : ReadsBack intent fields file) :
    ∃ extension, asObject (fieldOf file "x-bnbera") = some extension ∧
      isText intent.configuration.tradingPair.text (fieldOf extension "tradingPair") = true ∧
      isText intent.configurationDigest (fieldOf extension "configurationDigest") = true := by
  have same := reads.same
  rw [built.file, creatorRegistrationFile] at same
  obtain ⟨fields', written, each⟩ := same.fields (by simp)
  cases written
  obtain ⟨value, found, inner⟩ := same_some (each "x-bnbera")
  obtain ⟨extension, rfl, each⟩ := inner.fields (by simp)
  refine ⟨extension, congrArg asObject found, ?_, ?_⟩
  · rw [(blind_isText _).seen each (show fieldOf _ "tradingPair" = _ from rfl), isText, decide_eq_true_eq]
  · rw [(blind_isText _).seen each (show fieldOf _ "configurationDigest" = _ from rfl), isText, decide_eq_true_eq]

omit [Sha256] [ByteDigests] [RegistrationSdk] in
theorem asString_some {text found : String} (read : asString (some (.str text)) = some found) : text ≠ "" := by
  rintro rfl
  cases read

omit [Sha256] [RegistrationSdk] in
theorem uriDigest_written (uri : String) : creatorRegistrationUriDigest uri ≠ "" := by
  have written : ∀ digest : Digest, digest.text ≠ "" := by
    intro digest empty
    have accepted := digest.accepted
    rw [empty] at accepted
    cases accepted
  unfold creatorRegistrationUriDigest
  split <;> exact written _

theorem Built.configurationDigest_written (built : Built deploymentId intent) : intent.configurationDigest ≠ "" := by
  intro empty
  have accepted := (Sha256.sha256Hex (stringifyJson intent.configuration.json)).accepted
  rw [← canonicalRuntimeConfigurationDigest.eq_1, built.digest, empty] at accepted
  cases accepted

theorem Built.registrationUri_written (built : Built deploymentId intent) : intent.registrationUri ≠ "" := by
  rw [encodedCreatorRegistrationUri_eq_ok built.uri, encodeErc8004AgentUri]
  intro empty
  have length := congrArg String.length empty
  rw [String.length_append] at length
  have start : dataUriPrefix.length = 29 := by decide
  simp [start] at length

omit [Sha256] [RegistrationSdk] in
theorem operationIdFor_written (deploymentId : String) : operationIdFor deploymentId ≠ "" := by
  intro empty
  have length := congrArg String.length empty
  rw [operationIdFor, String.length_append] at length
  have start : "creator:erc8004:".length = 16 := by decide
  simp [start] at length

/-- What is read behind the check of the configuration: the intent, where it survives, or nothing. -/
theorem boundIntent_stored {column : JsonbColumn} (built : Built deploymentId intent) {fields file : EventReference}
    (refs : eventRefs (column.read (.obj (intentRefs intent))) = fields) (reads : ReadsBack intent fields file) :
    boundIntent fields deploymentId file intent.configurationDigest intent.configuration = some intent ∧ Survives column intent ∨
      boundIntent fields deploymentId file intent.configurationDigest intent.configuration = none ∧ ¬Survives column intent := by
  obtain ⟨extension, inner, pair, digest⟩ := extension_readsBack built reads
  have encodes := encodesTo_iff built.uri built.uriDigest
    (built.file ▸ creatorRegistrationFile_wellFormed _ _ _ _ _) reads.same
  have operationId := reads.text (show fieldOf _ "operationId" = _ from rfl)
  have endpoint := reads.text (show fieldOf _ "endpoint" = _ from rfl)
  have ownerAddress := reads.text (show fieldOf _ "ownerAddress" = _ from rfl)
  have agentWallet := reads.text (show fieldOf _ "agentWallet" = _ from rfl)
  have name := reads.text (show fieldOf _ "name" = _ from rfl)
  have registrationUri := reads.text (show fieldOf _ "registrationUri" = _ from rfl)
  have uriDigest := reads.text (show fieldOf _ "uriDigest" = _ from rfl)
  have description := reads.text (show fieldOf _ "description" = _ from rfl)
  by_cases survives : Survives column intent
  · have same : Json.obj file = intent.registrationFile := by
      have found := survives.file
      rw [refs, reads.found] at found
      exact Option.some.inj found
    refine .inl ⟨?_, survives⟩
    rw [asString_text (built.operationId ▸ operationIdFor_written deploymentId)] at operationId
    rw [asString_text survives.endpoint] at endpoint
    rw [asString_text survives.ownerAddress] at ownerAddress
    rw [asString_text survives.agentWallet] at agentWallet
    rw [asString_text survives.name] at name
    rw [asString_text built.registrationUri_written] at registrationUri
    rw [asString_text (built.uriDigest ▸ uriDigest_written _)] at uriDigest
    have described : (asString (fieldOf fields "description")).getD "" = intent.description := by
      rw [description, asString]
      split
      · rename_i empty
        exact empty.symm
      · rfl
    have encoded := encodes.mpr same
    rw [same] at encoded
    simp only [boundIntent, inner, pair, digest, operationId, endpoint, ownerAddress, agentWallet, name, registrationUri,
      uriDigest, encoded, described, same, ← built.ofDeployment, Option.bind_eq_bind, Option.bind_some, guard_true, Option.pure_def,
      Option.getD_some]
  · refine .inr ⟨?_, survives⟩
    cases bound : boundIntent fields deploymentId file intent.configurationDigest intent.configuration with
    | none => rfl
    | some found =>
      refine (survives ?_).elim
      simp only [boundIntent, inner, pair, digest, Option.bind_eq_bind, Option.bind_some, guard_true, Option.bind_eq_some_iff] at bound
      obtain ⟨_, _, _, _, _, anEndpoint, _, anOwner, _, aWallet, _, aName, _, aUri, _, aDigest, _, encoded, _⟩ := bound
      rw [endpoint] at anEndpoint
      rw [ownerAddress] at anOwner
      rw [agentWallet] at aWallet
      rw [name] at aName
      rw [registrationUri, asString_text built.registrationUri_written] at aUri
      rw [uriDigest, asString_text (built.uriDigest ▸ uriDigest_written _)] at aDigest
      cases aUri
      cases aDigest
      have same : Json.obj file = intent.registrationFile := encodes.mp ((Option.guard_eq_some' _).mp encoded)
      refine ⟨?_, asString_some anEndpoint, asString_some anOwner, asString_some aWallet, asString_some aName⟩
      rw [refs, reads.found, same]

theorem asIntent_stored {column : JsonbColumn} {events : List EventRow} {event : EventRow} (built : Built deploymentId intent)
    (last : lastIntent events = some event) (stored : event.externalResourceReferences = column.read (.obj (intentRefs intent))) :
    asIntent events deploymentId = .ok (some intent) ∧ Survives column intent ∨
      asIntent events deploymentId = .ok none ∧ ¬Survives column intent := by
  obtain ⟨fields, shape, each⟩ := (column.same (.obj (intentRefs intent))).fields (intentRefs_nodup intent)
  obtain ⟨file, reads⟩ := readsBack ⟨_, built.file⟩ each
  have refs : eventRefs event.externalResourceReferences = fields := by
    rw [stored, shape]
    rfl
  have configurationDigest : asString (fieldOf fields "configurationDigest") = some intent.configurationDigest := by
    rw [reads.text (show fieldOf _ "configurationDigest" = _ from rfl), asString_text built.configurationDigest_written]
  have configuration : assertConfiguration (fieldOf fields "configuration") intent.configurationDigest =
      .ok intent.configuration := by
    rw [assertConfiguration, reads.configuration]
    exact if_neg (not_not.mpr built.digest)
  have bound : asIntent events deploymentId =
      .ok (boundIntent fields deploymentId file intent.configurationDigest intent.configuration) := by
    simp only [asIntent, last, refs, configurationDigest, reads.found, asObject, configuration]
    rfl
  rw [bound]
  rw [stored] at refs
  rcases boundIntent_stored built refs reads with ⟨read, survives⟩ | ⟨read, lost⟩
  · exact .inl ⟨by rw [read], survives⟩
  · exact .inr ⟨by rw [read], lost⟩

end

end Bnbera.Registration
