import Bnbera.Publication.Sdk

/-! How the creates of the Greenfield adapter end, for every behaviour of the client and the secret loader. -/

namespace Bnbera.Publication.Sdk

open Interleaving Evidence GreenfieldSdkPublisher

/-! ### What is thrown -/

def definiteCodes : List PublicationFailureCode := [.createFailed, .providerFailed, .unsupportedProvider, .durableGraphInvalid]

def Definite : Thrown → Prop
  | .provider failure => failure.code ∈ definiteCodes
  | .foreign _ => False

/-- A definite failure, or an error that a `catch` makes one. -/
def Tolerable : Thrown → Prop
  | .provider failure => failure.code ∈ definiteCodes
  | .foreign _ => True

def Errors {α : Type} (fine : Thrown → Prop) (result : Except Thrown α) : Prop := ∀ error, result = .error error → fine error

section
variable {α β : Type} {fine : Thrown → Prop}

theorem Definite.tolerable {error : Thrown} (definite : Definite error) : Tolerable error := by
  cases error with
  | provider failure => exact definite
  | foreign error => exact definite.elim

theorem Errors.ok {value : α} : Errors fine (.ok value : Except Thrown α) := nofun

theorem Errors.error {error : Thrown} (holds : fine error) : Errors fine (.error error : Except Thrown α) := by
  intro other same
  cases same
  exact holds

theorem Errors.bind {first : Except Thrown α} {rest : α → Except Thrown β} (starts : Errors fine first)
    (ends : ∀ value, Errors fine (rest value)) : Errors fine (first >>= rest) := by
  cases first with
  | error error => exact Errors.error (starts error rfl)
  | ok value => exact ends value

theorem Errors.refuseIf {fails : Prop} [Decidable fails] {error : Thrown} (holds : fine error) :
    Errors fine (refuseIf fails error) := by
  unfold Bnbera.refuseIf
  split
  · exact Errors.error holds
  · exact Errors.ok

theorem Errors.checked {fails : Prop} [Decidable fails] {code : PublicationFailureCode} {message : String}
    {retryable : Bool} (listed : code ∈ definiteCodes) :
    Errors Definite (Bnbera.refuseIf fails (refusal code message retryable)) :=
  Errors.refuseIf listed

theorem Errors.refused {code : PublicationFailureCode} {message : String} {retryable : Bool}
    (listed : code ∈ definiteCodes) : Errors Definite (.error (refusal code message retryable) : Except Thrown α) :=
  Errors.error listed

theorem Errors.unless {passes : Prop} [Decidable passes] {value : α} {code : PublicationFailureCode} {message : String}
    (listed : code ∈ definiteCodes) :
    Errors Definite (if passes then .ok value else .error (refusal code message) : Except Thrown α) := by
  split
  · exact Errors.ok
  · exact Errors.refused listed

theorem Errors.map {result : Except Thrown α} {change : α → β} (starts : Errors fine result) :
    Errors fine (change <$> result) := by
  cases result with
  | error error => exact Errors.error (starts error rfl)
  | ok value => exact Errors.ok

variable [Platform]

theorem Tolerable.definite {error : Thrown} {code : PublicationFailureCode} (tolerable : Tolerable error)
    (listed : code ∈ definiteCodes) : Definite (providerFailure code error) := by
  cases error with
  | provider failure => exact tolerable
  | foreign error => exact listed

theorem Errors.rescued {result : Except Thrown α} {code : PublicationFailureCode} (listed : code ∈ definiteCodes)
    (starts : Errors Tolerable result) : Errors Definite (orProviderFailure code result) := by
  cases result with
  | error error => exact Errors.error ((starts error rfl).definite listed)
  | ok value => exact Errors.ok

omit [Platform] in
theorem Errors.foreign {result : Except Foreign α} : Errors Tolerable (result.mapError .foreign) := by
  cases result with
  | error error => exact Errors.error trivial
  | ok value => exact Errors.ok

end

section
variable [Platform] [UrlParser] (publisher : GreenfieldSdkPublisher)

omit [Platform] [UrlParser] in
theorem validateObjectName_errors (objectName : String) : Errors Definite (validateObjectName objectName) :=
  Errors.checked (by decide)

omit [Platform] in
theorem canonicalHttpsUrl_errors (value field : String) : Errors Definite (canonicalHttpsUrl value field) := by
  unfold canonicalHttpsUrl
  split
  · exact Errors.refused (by decide)
  · exact Errors.bind (Errors.checked (by decide)) fun _ => Errors.ok

namespace GreenfieldSdkPublisher

omit [UrlParser] in
theorem computedChecksums_errors (canonicalBytes : Option Bytes) :
    Errors Definite (publisher.computedChecksums canonicalBytes) := by
  refine Errors.bind (Errors.checked (by decide)) fun _ => Errors.bind ?_ fun encode => ?_
  · cases publisher.encode with
    | error message => exact Errors.refused (by decide)
    | ok encode => exact Errors.ok
  · split
    · exact Errors.refused (by decide)
    · exact Errors.bind (Errors.checked (by decide)) fun _ => Errors.ok

omit [UrlParser] in
theorem checksumsFor_errors (canonicalBytes : Option Bytes) (expectedChecksums : Option (List Bytes)) :
    Errors Definite (publisher.checksumsFor canonicalBytes expectedChecksums) := by
  unfold checksumsFor
  split
  · refine Errors.bind (Errors.checked (by decide)) fun _ => ?_
    split
    · exact Errors.ok
    · exact Errors.bind (publisher.computedChecksums_errors _) fun _ =>
        Errors.bind (Errors.checked (by decide)) fun _ => Errors.ok
  · exact publisher.computedChecksums_errors _

omit [Platform] in
theorem assertAllowlistedEndpoint_errors (endpoint : String) :
    Errors Definite (publisher.assertAllowlistedEndpoint endpoint) :=
  Errors.bind (canonicalHttpsUrl_errors _ _) fun _ => Errors.bind (Errors.checked (by decide)) fun _ => Errors.ok

theorem resolvedEndpoint_errors (answer : Except Foreign Value) : Errors Definite (publisher.resolvedEndpoint answer) := by
  refine Errors.rescued (by decide) (Errors.bind Errors.foreign fun endpoint => ?_)
  split
  · refine Errors.bind (Errors.refuseIf trivial) fun _ => ?_
    exact fun error failed => (publisher.assertAllowlistedEndpoint_errors _ error failed).tolerable
  · exact Errors.error trivial

omit [UrlParser] in
theorem metadataOf_errors (answer : Except Foreign Record) : Errors Definite (metadataOf answer) := by
  unfold metadataOf
  cases answer with
  | error error =>
    show Errors Definite (if _ then _ else _)
    split
    · exact Errors.ok
    · exact Errors.error (Tolerable.definite trivial (by decide))
  | ok response =>
    dsimp only
    split
    · split
      · exact Errors.ok
      · exact Errors.refused (by decide)
    · split
      · exact Errors.ok
      · split
        · exact Errors.ok
        · split <;> exact Errors.refused (by decide)

omit [UrlParser] in
theorem inspectedObject_errors (objectName : String) (sizeBytes : Option Nat) (expectedChecksums : Option (List Bytes))
    (metadata : Record) :
    Errors Definite (publisher.inspectedObject objectName sizeBytes expectedChecksums metadata) := by
  refine Errors.bind (Errors.checked (by decide)) fun _ => Errors.bind (Errors.checked (by decide)) fun _ =>
    Errors.bind (Errors.checked (by decide)) fun _ => Errors.bind (Errors.checked (by decide)) fun _ => ?_
  split
  · exact Errors.refused (by decide)
  · exact Errors.bind (Errors.checked (by decide)) fun _ => Errors.ok

omit [UrlParser] in
theorem inspectedAnswer_errors (objectName : String) (sizeBytes : Option Nat) (expectedChecksums : Option (List Bytes))
    (answer : Except Foreign Record) :
    Errors Definite (publisher.inspectedAnswer objectName sizeBytes expectedChecksums answer) := by
  refine Errors.bind (metadataOf_errors answer) fun object => ?_
  cases object with
  | none => exact Errors.ok
  | some metadata => exact publisher.inspectedObject_errors _ _ _ _

end GreenfieldSdkPublisher

end

/-! ### What a log shows -/

def IsBroadcast : SdkCall → Prop
  | .broadcast _ => True
  | _ => False

def IsCreate : SdkCall → Prop
  | .createObject _ _ _ => True
  | .createBucket _ => True
  | _ => False

def IsLook : SdkCall → Prop
  | .getSPUrlByBucket => True
  | .getObjectMeta _ _ => True
  | .headObject _ => True
  | _ => False

def ShowsMissing [Platform] (objectName : String) (entry : SdkEntry) : Prop :=
  ∃ endpoint answer, entry = ⟨.getObjectMeta endpoint objectName, answer⟩ ∧ metadataOf answer = .ok none

section
variable [Platform] [UrlParser] (publisher : GreenfieldSdkPublisher) (input : CreateInput)

def Says (checksums : List Bytes) (entry : SdkEntry) (receipt : GreenfieldInspectReceipt) : Prop :=
  ∃ endpoint answer, entry = ⟨.getObjectMeta endpoint input.objectName, answer⟩ ∧
    publisher.inspectedAnswer input.objectName (some input.sizeBytes) (some checksums) answer = .ok receipt

def Found (hash : String) (entry : SdkEntry) : Prop :=
  ∃ checksums receipt, publisher.checksumsFor input.canonicalBytes input.expectedChecksums = .ok checksums ∧
    Says publisher input checksums entry receipt ∧ receipt.status ≠ .missing ∧ receipt.creationTransactionHash = some hash

/-- The object is the requested one: its name, owner, size and checksums, with this create hash. -/
structure Requested (metadata : Record) (hash : String) : Prop where
  name : stringField (((objectLike (metadata.field "ObjectInfo")).getD []).field "ObjectName") = some input.objectName
  owner : ∃ owner, lower owner = lower publisher.creator ∧
    (stringField (((objectLike (metadata.field "ObjectInfo")).getD []).field "Owner") = some owner ∨
      stringField (((objectLike (metadata.field "ObjectInfo")).getD []).field "Creator") = some owner)
  size : numericField (((objectLike (metadata.field "ObjectInfo")).getD []).field "PayloadSize") = some (input.sizeBytes : Rat)
  checksums : publisher.checksumsFor input.canonicalBytes input.expectedChecksums = .ok
    ((checksumList (((objectLike (metadata.field "ObjectInfo")).getD []).field "Checksums")).map Platform.base64ToBytes)
  hash : hashOrNull (metadata.field "CreateTxHash") = some hash

def Observed (hash : String) (entry : SdkEntry) : Prop :=
  ∃ endpoint answer metadata, entry = ⟨.getObjectMeta endpoint input.objectName, answer⟩ ∧
    metadataOf answer = .ok (some metadata) ∧ Requested publisher input metadata hash

variable {publisher input}

omit [UrlParser] in
/-- What an inspection takes for an object is the requested object, with its create hash. -/
theorem Says.present {checksums : List Bytes} {entry : SdkEntry} {receipt : GreenfieldInspectReceipt}
    (computed : publisher.checksumsFor input.canonicalBytes input.expectedChecksums = .ok checksums)
    (told : Says publisher input checksums entry receipt) (there : receipt.status ≠ .missing) :
    (∃ reference, receipt.objectReference = some reference) ∧
      ∀ hash, receipt.creationTransactionHash = some hash → Observed publisher input hash entry := by
  obtain ⟨endpoint, answer, rfl, inspected⟩ := told
  obtain ⟨object, read, rest⟩ := bind_eq_ok.mp inspected
  cases object with
  | none =>
    cases rest
    exact absurd rfl there
  | some metadata =>
    simp only [GreenfieldSdkPublisher.inspectedObject, refuseIf_bind_eq_ok, not_not] at rest
    obtain ⟨name, owner, size, sums, rest⟩ := rest
    split at rest
    · cases rest
    · obtain ⟨_, made⟩ := refuseIf_bind_eq_ok.mp rest
      cases made
      refine ⟨⟨_, rfl⟩, fun hash created => ⟨endpoint, answer, metadata, rfl, read, name, ?_, ?_, ?_, created⟩⟩
      · obtain ⟨text, read, same⟩ := Option.map_eq_some_iff.mp owner
        refine ⟨text, same, ?_⟩
        cases own : stringField (((objectLike (metadata.field "ObjectInfo")).getD []).field "Owner") with
        | none =>
          rw [own] at read
          exact Or.inr read
        | some first =>
          rw [own] at read
          exact Or.inl read
      · simpa using size
      · have same : (checksumList _).map Platform.base64ToBytes = checksums :=
          not_not.mp fun differ => sums ⟨checksums, rfl, differ⟩
        rw [computed, same]

omit [UrlParser] in
theorem Found.observed {hash : String} {entry : SdkEntry} (found : Found publisher input hash entry) :
    Observed publisher input hash entry := by
  obtain ⟨checksums, receipt, computed, told, there, created⟩ := found
  exact (told.present computed there).2 hash created

/-! ### Looking at the object -/

/-- What an inspection returns is what the log says, and its errors are definite. -/
structure InspectEnds (publisher : GreenfieldSdkPublisher) (input : CreateInput) (checksums : List Bytes)
    (result : Except Thrown GreenfieldInspectReceipt) (looks : SdkHistory) : Prop where
  tells : ∀ receipt, result = .ok receipt ↔ ∃ entry ∈ looks, Says publisher input checksums entry receipt
  definite : Errors Definite result

def Looked (before : SdkHistory) (ends : SdkHistory → Prop) (after : SdkHistory) : Prop :=
  ∃ looks, after = before ++ looks ∧ (∀ entry ∈ looks, IsLook entry.op) ∧ ends looks

variable {guard : SdkHistory → SdkCall → Prop}

theorem resolveEndpoint_keeps (looks : ∀ history op, IsLook op → guard history op) (before : SdkHistory) :
    Keeps guard (fun result after => Looked before (fun looks => (∀ entry ∈ looks, entry.op = .getSPUrlByBucket) ∧
      Errors Definite result) after) publisher.resolveEndpoint.run before := by
  unfold resolveEndpoint
  cases publisher.spEndpoint with
  | some endpoint =>
    refine .done ⟨[], (List.append_nil before).symm, nofun, nofun, publisher.assertAllowlistedEndpoint_errors endpoint⟩
  | none =>
    dsimp only
    split
    · refine Keeps.ask_bind (looks _ _ trivial) fun answer => .done ⟨[_], rfl, ?_, ?_, publisher.resolvedEndpoint_errors answer⟩
      · exact fun entry member => List.mem_singleton.mp member ▸ trivial
      · exact fun entry member => List.mem_singleton.mp member ▸ rfl
    · exact .done ⟨[], (List.append_nil before).symm, nofun, nofun, Errors.refused (by decide)⟩

omit [UrlParser] in
theorem Says.unique {checksums : List Bytes} {endpoint : String} {answer : Except Foreign Record}
    {receipt : GreenfieldInspectReceipt}
    (told : Says publisher input checksums ⟨.getObjectMeta endpoint input.objectName, answer⟩ receipt) :
    publisher.inspectedAnswer input.objectName (some input.sizeBytes) (some checksums) answer = .ok receipt := by
  obtain ⟨_, _, same, inspected⟩ := told
  cases same
  exact inspected

theorem inspectObject_keeps (looks : ∀ history op, IsLook op → guard history op) (checksums : List Bytes)
    (before : SdkHistory) :
    Keeps guard (fun result after => Looked before (InspectEnds publisher input checksums result) after)
      (publisher.inspectObject ⟨input.objectName, some input.sizeBytes, none, some checksums⟩).run before := by
  have early : ∀ {error more}, Definite error → (∀ entry ∈ more, entry.op = SdkCall.getSPUrlByBucket) →
      InspectEnds publisher input checksums (.error error) more := by
    intro error more definite other
    refine ⟨fun receipt => ⟨nofun, ?_⟩, Errors.error definite⟩
    rintro ⟨entry, member, endpoint, answer, rfl, _⟩
    exact absurd (other _ member) nofun
  unfold inspectObject
  refine Keeps.lift_bind (fun error failed => ?_) fun _ _ => ?_
  · exact ⟨[], (List.append_nil before).symm, nofun, early (validateObjectName_errors _ error failed)
      (fun _ member => nomatch member)⟩
  · refine Keeps.lift_bind nofun fun expected same => ?_
    cases same
    refine Keeps.except_bind ((resolveEndpoint_keeps looks before).post ?_)
    rintro (error | endpoint) after ⟨resolved, rfl, looking, other, definite⟩
    · exact ⟨resolved, rfl, looking, early (definite error rfl) other⟩
    · refine Keeps.ask_bind (looks _ _ trivial) fun answer => .done ?_
      refine ⟨resolved ++ [_], List.append_assoc _ _ _, ?_, ?_, publisher.inspectedAnswer_errors _ _ _ answer⟩
      · intro entry member
        rcases List.mem_append.mp member with old | new
        · exact looking entry old
        · exact List.mem_singleton.mp new ▸ trivial
      · intro receipt
        constructor
        · exact fun inspected => ⟨_, List.mem_append_right _ (List.mem_singleton_self _), endpoint, answer, rfl, inspected⟩
        · rintro ⟨entry, member, told⟩
          rcases List.mem_append.mp member with old | new
          · obtain ⟨_, _, rfl, _⟩ := told
            exact absurd (other _ old) nofun
          · rw [List.mem_singleton.mp new] at told
            exact told.unique

omit [UrlParser] in
theorem checksumsFor_supplied {canonicalBytes : Option Bytes} {supplied checksums : List Bytes}
    (computed : publisher.checksumsFor canonicalBytes (some supplied) = .ok checksums) : checksums = supplied := by
  obtain ⟨_, rest⟩ := refuseIf_bind_eq_ok.mp computed
  cases canonicalBytes with
  | none => exact (Except.ok.inj rest).symm
  | some bytes =>
    obtain ⟨_, _, rest⟩ := bind_eq_ok.mp rest
    exact (Except.ok.inj (refuseIf_bind_eq_ok.mp rest).2).symm

/-- What a reconciliation returns where the object was seen, and where else. -/
structure ReconcileEnds (publisher : GreenfieldSdkPublisher) (input : CreateInput) (checksums : List Bytes)
    (result : Except Thrown GreenfieldCreateReconciliation) (looks : SdkHistory) : Prop where
  seen : ∀ entry ∈ looks, ∀ receipt, Says publisher input checksums entry receipt → receipt.status ≠ .missing →
    result = .ok ⟨.present, receipt.objectReference, receipt.creationTransactionHash, receipt.sealTransactionHash⟩
  present : ∀ reconciliation, result = .ok reconciliation → reconciliation.status = .present →
    ∃ entry ∈ looks, ∃ receipt, Says publisher input checksums entry receipt ∧ receipt.status ≠ .missing ∧
      receipt.creationTransactionHash = reconciliation.creationTransactionHash

omit [UrlParser] in
theorem ReconcileEnds.unseen {checksums : List Bytes} {result : Except Thrown GreenfieldCreateReconciliation}
    {looks : SdkHistory} (other : ∀ entry ∈ looks, ∀ receipt, Says publisher input checksums entry receipt →
      receipt.status = .missing)
    (absent : ∀ reconciliation, result = .ok reconciliation → reconciliation.status ≠ .present) :
    ReconcileEnds publisher input checksums result looks where
  seen entry member receipt told there := absurd (other entry member receipt told) there
  present reconciliation returned there := absurd there (absent reconciliation returned)

omit [Platform] [UrlParser] in
theorem chainObjectStatus_keeps (looks : ∀ history op, IsLook op → guard history op) (objectName : String)
    (before : SdkHistory) :
    Keeps guard (fun result after => (∃ status, result = .ok status) ∧
        Looked before (fun looks => ∀ entry ∈ looks, entry.op = .headObject objectName) after)
      (publisher.chainObjectStatus objectName).run before := by
  unfold chainObjectStatus
  split
  · refine Keeps.ask_bind (looks _ _ trivial) fun answer => .done ⟨⟨_, rfl⟩, [_], rfl, ?_, ?_⟩
    · exact fun entry member => List.mem_singleton.mp member ▸ trivial
    · exact fun entry member => List.mem_singleton.mp member ▸ rfl
  · exact .done ⟨⟨_, rfl⟩, [], (List.append_nil before).symm, nofun, nofun⟩

theorem reconcileCreate_keeps (looks : ∀ history op, IsLook op → guard history op) (checksums : List Bytes)
    (before : SdkHistory) :
    Keeps guard (fun result after => Looked before (ReconcileEnds publisher input checksums result) after)
      (publisher.reconcileCreate { input with expectedChecksums := some checksums }).run before := by
  have early : ∀ error, Looked before (ReconcileEnds publisher input checksums (.error error)) before :=
    fun error => ⟨[], (List.append_nil before).symm, nofun, .unseen nofun nofun⟩
  unfold reconcileCreate
  refine Keeps.lift_bind (fun error _ => early error) fun _ _ => ?_
  refine Keeps.lift_bind (fun error _ => early error) fun expected computed => ?_
  obtain rfl := checksumsFor_supplied computed
  refine Keeps.except_bind ((chainObjectStatus_keeps looks _ before).post ?_)
  rintro _ _ ⟨⟨chainStatus, rfl⟩, heads, rfl, looking, headed⟩
  have unheard : ∀ entry ∈ heads, ∀ receipt, ¬Says publisher input expected entry receipt := by
    rintro _ member receipt ⟨endpoint, answer, rfl, _⟩
    exact absurd (headed _ member) nofun
  refine Keeps.except_bind
    (Keeps.except_catch ((Keeps.renamed (@inspectObject_keeps _ _ publisher input _ looks expected _) some).post ?_))
  rintro result after ⟨inner, rfl, inspections, rfl, inspecting, ends⟩
  have all : ∀ entry ∈ heads ++ inspections, IsLook entry.op := fun entry member =>
    (List.mem_append.mp member).elim (looking entry) (inspecting entry)
  cases inner with
  | error error =>
    have silent : ∀ entry ∈ heads ++ inspections, ∀ receipt, Says publisher input expected entry receipt →
        receipt.status = .missing := by
      intro entry member receipt told
      rcases List.mem_append.mp member with old | new
      · exact absurd told (unheard entry old receipt)
      · exact absurd ((ends.tells receipt).mpr ⟨entry, new, told⟩) nofun
    have thrown : Looked before (ReconcileEnds publisher input expected (.error error)) ((before ++ heads) ++ inspections) :=
      ⟨_, List.append_assoc _ _ _, all, .unseen silent nofun⟩
    rcases error with ⟨code, message, retryable⟩ | error
    · by_cases same : code = .providerFailed
      · subst same
        refine .done (.done ⟨_, List.append_assoc _ _ _, all, .unseen silent ?_⟩)
        intro reconciliation same
        cases same
        exact nofun
      · cases code <;> first | exact absurd rfl same | exact .done thrown
    · exact .done thrown
  | ok receipt =>
    have heard : ∃ entry ∈ inspections, Says publisher input expected entry receipt := (ends.tells receipt).mp rfl
    have only : ∀ entry ∈ heads ++ inspections, ∀ other, Says publisher input expected entry other → other = receipt := by
      intro entry member other told
      rcases List.mem_append.mp member with old | new
      · exact absurd told (unheard entry old other)
      · exact (Except.ok.inj ((ends.tells other).mpr ⟨entry, new, told⟩)).symm
    show Keeps guard _ (ExceptT.run (if receipt.status ≠ .missing then _ else _)) _
    by_cases missing : receipt.status = .missing
    · have silent : ∀ entry ∈ heads ++ inspections, ∀ other, Says publisher input expected entry other →
          other.status = .missing := fun entry member other told => only entry member other told ▸ missing
      rw [if_neg (not_not.mpr missing)]
      have unresolved_absent : ∀ status : ReconciliationStatus, status ≠ .present →
          ReconcileEnds publisher input expected (.ok (unresolved status)) (heads ++ inspections) := by
        intro status absent
        refine .unseen silent fun reconciliation same => ?_
        cases same
        exact absent
      split
      · exact .done ⟨_, List.append_assoc _ _ _, all, unresolved_absent _ nofun⟩
      · exact .done ⟨_, List.append_assoc _ _ _, all, unresolved_absent _ nofun⟩
    · rw [if_pos missing]
      refine .done ⟨_, List.append_assoc _ _ _, all, ?_, ?_⟩
      · intro entry member other told _
        rw [only entry member other told]
      · intro reconciliation same _
        cases same
        obtain ⟨entry, member, told⟩ := heard
        exact ⟨entry, List.mem_append_right _ member, receipt, told, missing, rfl⟩

structure RecoverEnds (publisher : GreenfieldSdkPublisher) (input : CreateInput)
    (result : Except Thrown GreenfieldCreateReceipt) (looks : SdkHistory) : Prop where
  confirmed : ∀ receipt, result = .ok receipt → receipt.status = .confirmed ∧
    ∃ hash, receipt.creationTransactionHash = some hash ∧ ∃ entry ∈ looks, Found publisher input hash entry
  unknown : ∀ error, result = .error error → error = createUnknown ∧ ∀ entry ∈ looks, ∀ hash, ¬Found publisher input hash entry

theorem recoverCreate_keeps (looks : ∀ history op, IsLook op → guard history op) {checksums : List Bytes}
    (computed : publisher.checksumsFor input.canonicalBytes input.expectedChecksums = .ok checksums)
    (before : SdkHistory) :
    Keeps guard (fun result after => Looked before (RecoverEnds publisher input result) after)
      (publisher.recoverCreate input checksums).run before := by
  have unfound : ∀ {result more}, ReconcileEnds publisher input checksums result more →
      (∀ reference hash sealed, result ≠ .ok ⟨.present, some reference, some hash, sealed⟩) →
      RecoverEnds publisher input (.error createUnknown) more := by
    intro result more ends absent
    refine ⟨nofun, fun error same => ⟨(Except.error.inj same).symm, ?_⟩⟩
    rintro entry member hash ⟨_, receipt, same, told, there, created⟩
    obtain rfl := Except.ok.inj (computed.symm.trans same)
    obtain ⟨reference, referred⟩ := (told.present computed there).1
    refine absent reference hash receipt.sealTransactionHash ?_
    rw [ends.seen entry member receipt told there, referred, created]
  unfold recoverCreate
  refine Keeps.except_bind (Keeps.except_catch
    ((Keeps.renamed (@reconcileCreate_keeps _ _ publisher input _ looks checksums before) some).post ?_))
  rintro result after ⟨inner, rfl, inspections, rfl, inspecting, ends⟩
  rcases inner with error | reconciliation
  · exact .done (.done ⟨inspections, rfl, inspecting, unfound ends nofun⟩)
  · by_cases whole : ∃ reference hash sealed, reconciliation = ⟨.present, some reference, some hash, sealed⟩
    · obtain ⟨reference, hash, sealed, rfl⟩ := whole
      refine .done ⟨inspections, rfl, inspecting, ?_, nofun⟩
      intro receipt same
      cases same
      obtain ⟨entry, member, receipt, told, there, created⟩ := ends.present _ rfl rfl
      exact ⟨rfl, hash, rfl, entry, member, checksums, receipt, computed, told, there, created⟩
    · have unknown : RecoverEnds publisher input (.error createUnknown) inspections :=
        unfound ends fun reference hash sealed same => whole ⟨reference, hash, sealed, Except.ok.inj same⟩
      rcases reconciliation with ⟨status, reference, hash, sealed⟩
      cases status <;> cases reference <;> cases hash
      all_goals first
        | exact .done ⟨inspections, rfl, inspecting, unknown⟩
        | exact absurd ⟨_, _, _, rfl⟩ whole

/-! ### The create of an object -/

variable (publisher) in
/-- A step of a create failed before its broadcast: the client or the loader threw, the key is invalid, or there is no
gas. -/
def FailsBefore : SdkEntry → Prop
  | ⟨.createObject _ _ _, .error _⟩ => True
  | ⟨.createObject _ _ _, .ok tx⟩ => tx.simulates = false ∧ ∃ error, publisher.gas none = .error error
  | ⟨.simulate, .error _⟩ => True
  | ⟨.simulate, .ok simulation⟩ => ∃ error, publisher.gas (some simulation) = .error error
  | ⟨.loadSecret, answer⟩ => ∃ error, loadedKey answer = .error error
  | _ => False

def Accepted (hash : String) (entry : SdkEntry) : Prop :=
  ∃ options response, entry = ⟨.broadcast options, .ok response⟩ ∧ responseCode response = some 0 ∧
    hashOrNull (response.field "txhash") = some hash

def MayCreate (objectName : String) (history : SdkHistory) (op : SdkCall) : Prop :=
  IsBroadcast op → (∀ entry ∈ history, ¬IsBroadcast entry.op) ∧ ∃ entry ∈ history, ShowsMissing objectName entry

structure SubmitEnds (publisher : GreenfieldSdkPublisher) (result : Except Thrown GreenfieldCreateReceipt)
    (steps : SdkHistory) : Prop where
  other : ∀ entry ∈ steps, ¬IsLook entry.op
  submitted : ∃ entry ∈ steps, IsCreate entry.op
  accepted : ∀ receipt, result = .ok receipt → receipt.status = .confirmed ∧
    ∃ hash, receipt.creationTransactionHash = some hash ∧ ∃ entry ∈ steps, Accepted hash entry
  failed : ∀ error, result = .error error →
    (∃ entry ∈ steps, IsBroadcast entry.op) ∨ ∃ entry ∈ steps, FailsBefore publisher entry

omit [UrlParser] in
theorem MayCreate.other {objectName : String} {history : SdkHistory} {op : SdkCall} (quiet : ¬IsBroadcast op) :
    MayCreate objectName history op := fun broadcast => absurd broadcast quiet

omit [UrlParser] in
theorem broadcastOptions_keeps (loads : ∀ history, guard history .loadSecret) (simulation : Option Record)
    (before : SdkHistory) :
    Keeps guard (fun result after =>
        (after = before ∧ ∃ error, result = .error error ∧ publisher.gas simulation = .error error) ∨
        ∃ answer, after = before ++ [⟨.loadSecret, answer⟩] ∧
          ∀ error, result = .error error → loadedKey answer = .error error)
      (publisher.broadcastOptions simulation).run before := by
  unfold broadcastOptions
  refine Keeps.lift_bind (fun error failed => Or.inl ⟨rfl, error, rfl, failed⟩) fun limits _ => ?_
  refine Keeps.ask_bind (loads _) fun answer => Keeps.lift_bind ?_ fun privateKey _ => .done (Or.inr ⟨answer, rfl, nofun⟩)
  intro error failed
  refine Or.inr ⟨answer, rfl, fun other same => ?_⟩
  cases same
  exact failed

omit [Platform] [UrlParser] in
theorem createdReceipt_accepted {objectName : String} {options : BroadcastOptions} {answer : Except Foreign Record}
    {receipt : GreenfieldCreateReceipt} (created : publisher.createdReceipt objectName answer = .ok receipt) :
    receipt.status = .confirmed ∧ ∃ hash, receipt.creationTransactionHash = some hash ∧
      Accepted hash ⟨.broadcast options, answer⟩ := by
  obtain ⟨response, answered, rest⟩ := bind_eq_ok.mp created
  obtain ⟨code, rest⟩ := refuseIf_bind_eq_ok.mp rest
  cases answer with
  | error error => cases answered
  | ok record =>
    cases answered
    split at rest
    · cases rest
    · next hash read =>
      cases rest
      exact ⟨rfl, hash, rfl, options, response, rfl, not_not.mp code, read⟩

omit [UrlParser] in
theorem submitCreate_keeps {checksums : List Bytes} {before : SdkHistory}
    (fresh : ∀ entry ∈ before, ¬IsBroadcast entry.op)
    (missing : ∃ entry ∈ before, ShowsMissing input.objectName entry) :
    Keeps (MayCreate input.objectName)
      (fun result after => ∃ steps, after = before ++ steps ∧ SubmitEnds publisher result steps)
      (publisher.submitCreate input checksums).run before := by
  have stopped : ∀ {steps : SdkHistory} {error}, (∀ entry ∈ steps, ¬IsLook entry.op) → (∃ entry ∈ steps, IsCreate entry.op) →
      (∃ entry ∈ steps, FailsBefore publisher entry) →
      ∃ more, before ++ steps = before ++ more ∧ SubmitEnds publisher (.error error) more :=
    fun other submitted failed => ⟨_, rfl, other, submitted, nofun, fun _ _ => Or.inr failed⟩
  -- the options and the broadcast, once the steps before them are known
  have ends : ∀ {steps : SdkHistory} {simulation}, (∀ entry ∈ steps, ¬IsLook entry.op ∧ ¬IsBroadcast entry.op) →
      (∃ entry ∈ steps, IsCreate entry.op) →
      ((∃ error, publisher.gas simulation = .error error) → ∃ entry ∈ steps, FailsBefore publisher entry) →
      Keeps (MayCreate input.objectName)
        (fun result after => ∃ more, after = before ++ more ∧ SubmitEnds publisher result more)
        (publisher.broadcastOptions simulation >>= fun options => do
          let answer : Except Foreign Record ← ask (.broadcast options)
          liftM (publisher.createdReceipt input.objectName answer)).run (before ++ steps) := by
    intro steps simulation quiet submitted gas
    refine Keeps.except_bind ((broadcastOptions_keeps (fun _ => MayCreate.other not_false) simulation _).post ?_)
    rintro result after (⟨rfl, error, rfl, failed⟩ | ⟨answer, rfl, failed⟩)
    · exact stopped (fun entry member => (quiet entry member).1) submitted (gas ⟨error, failed⟩)
    · rw [List.append_assoc]
      cases result with
      | error error =>
        refine stopped ?_ ?_ ⟨_, List.mem_append_right _ (List.mem_singleton_self _), error, failed error rfl⟩
        · exact List.forall_mem_append.mpr ⟨fun entry member => (quiet entry member).1, by simp [IsLook]⟩
        · obtain ⟨entry, member, creates⟩ := submitted
          exact ⟨entry, List.mem_append_left _ member, creates⟩
      | ok options =>
        have allowed : MayCreate input.objectName (before ++ (steps ++ [⟨.loadSecret, answer⟩])) (.broadcast options) := by
          refine fun _ => ⟨?_, missing.imp fun entry holds => ⟨List.mem_append_left _ holds.1, holds.2⟩⟩
          simp only [List.forall_mem_append]
          exact ⟨fresh, fun entry member => (quiet entry member).2, by simp [IsBroadcast]⟩
        refine Keeps.ask_bind allowed fun response => .done ?_
        refine ⟨(steps ++ [⟨.loadSecret, answer⟩]) ++ [⟨.broadcast options, response⟩], List.append_assoc _ _ _, ?_, ?_, ?_, ?_⟩
        · simp only [List.forall_mem_append]
          exact ⟨⟨fun entry member => (quiet entry member).1, by simp [IsLook]⟩, by simp [IsLook]⟩
        · obtain ⟨entry, member, creates⟩ := submitted
          exact ⟨entry, List.mem_append_left _ (List.mem_append_left _ member), creates⟩
        · intro receipt created
          obtain ⟨confirmed, hash, same, accepted⟩ := @createdReceipt_accepted publisher _ options _ _ created
          exact ⟨confirmed, hash, same, _, List.mem_append_right _ (List.mem_singleton_self _), accepted⟩
        · exact fun _ _ => Or.inl ⟨_, List.mem_append_right _ (List.mem_singleton_self _), trivial⟩
  unfold submitCreate
  refine Keeps.ask_bind (MayCreate.other not_false) fun created => ?_
  cases created with
  | error error =>
    exact .done (stopped (by simp [IsLook]) ⟨_, List.mem_singleton_self _, trivial⟩ ⟨_, List.mem_singleton_self _, trivial⟩)
  | ok tx =>
    refine Keeps.lift_bind nofun fun _ same => ?_
    cases same
    unfold simulated
    by_cases simulates : tx.simulates = true
    · rw [if_pos simulates]
      refine Keeps.except_bind (Keeps.ask_bind (MayCreate.other not_false) fun simulation => ?_)
      rw [List.append_assoc]
      cases simulation with
      | error error =>
        exact .done (stopped (by simp [IsLook]) ⟨_, List.mem_cons_self, trivial⟩
          ⟨_, List.mem_cons_of_mem _ (List.mem_singleton_self _), trivial⟩)
      | ok record =>
        exact .done (ends (by simp [IsLook, IsBroadcast]) ⟨_, List.mem_cons_self, trivial⟩ fun failed =>
          ⟨_, List.mem_cons_of_mem _ (List.mem_singleton_self _), failed⟩)
    · rw [if_neg simulates]
      exact ends (by simp [IsLook, IsBroadcast]) ⟨_, List.mem_singleton_self _, trivial⟩ fun failed =>
        ⟨_, List.mem_singleton_self _, eq_false_of_ne_true simulates, failed⟩

variable (publisher input) in
structure CreateEnds (result : Except Thrown GreenfieldCreateReceipt) (log : SdkHistory) : Prop where
  confirmed : ∀ receipt, result = .ok receipt → receipt.status = .confirmed ∧
    ∃ hash, receipt.creationTransactionHash = some hash ∧
      ∃ entry ∈ log, Accepted hash entry ∨ Observed publisher input hash entry
  thrown : ∀ error, result = .error error → Definite error ∨ error = createUnknown
  early : ∀ error, result = .error error → (∀ entry ∈ log, ¬IsCreate entry.op) → Definite error
  unknown : result = .error createUnknown → (∀ entry ∈ log, ∀ hash, ¬Found publisher input hash entry) ∧
    ((∃ entry ∈ log, IsBroadcast entry.op) ∨ ∃ entry ∈ log, FailsBefore publisher entry)

omit [UrlParser] in
theorem CreateEnds.refused {error : Thrown} {log : SdkHistory} (definite : Definite error) :
    CreateEnds publisher input (.error error) log where
  confirmed := nofun
  thrown other same := by
    cases same
    exact Or.inl definite
  early other same _ := by
    cases same
    exact definite
  unknown same := by
    cases same
    exact absurd (show PublicationFailureCode.createUnknown ∈ definiteCodes from definite) (by decide)

omit [Platform] [UrlParser] in
theorem IsLook.quiet {op : SdkCall} (look : IsLook op) : ¬IsBroadcast op := by
  cases op <;> first | exact not_false | exact look.elim

omit [UrlParser] in
theorem Says.missing {checksums : List Bytes} {entry : SdkEntry} {receipt : GreenfieldInspectReceipt}
    (told : Says publisher input checksums entry receipt) (missing : receipt.status = .missing) :
    ShowsMissing input.objectName entry := by
  obtain ⟨endpoint, answer, rfl, inspected⟩ := told
  obtain ⟨object, read, rest⟩ := bind_eq_ok.mp inspected
  refine ⟨endpoint, answer, rfl, ?_⟩
  cases object with
  | none => exact read
  | some metadata =>
    simp only [GreenfieldSdkPublisher.inspectedObject, refuseIf_bind_eq_ok] at rest
    obtain ⟨_, _, _, _, rest⟩ := rest
    split at rest
    · cases rest
    · obtain ⟨_, made⟩ := refuseIf_bind_eq_ok.mp rest
      cases made
      dsimp only at missing
      split at missing <;> cases missing

theorem createObject_keeps :
    Keeps (MayCreate input.objectName) (CreateEnds publisher input) (publisher.createObject input).run [] := by
  have looks : ∀ history op, IsLook op → MayCreate input.objectName history op :=
    fun _ _ look => MayCreate.other look.quiet
  have validated : Errors Definite (publisher.validateCreate input) :=
    Errors.bind (validateObjectName_errors _) fun _ => Errors.bind (Errors.checked (by decide)) fun _ =>
      publisher.checksumsFor_errors _ _
  unfold createObject
  refine Keeps.lift_bind (fun error failed => .refused (validated error failed)) fun checksums passed => ?_
  have computed : publisher.checksumsFor input.canonicalBytes input.expectedChecksums = .ok checksums := by
    obtain ⟨_, _, rest⟩ := bind_eq_ok.mp passed
    exact (refuseIf_bind_eq_ok.mp rest).2
  refine Keeps.except_bind (Keeps.except_catch ((inspectObject_keeps looks checksums []).post ?_))
  rintro (error | receipt) inspections ⟨_, rfl, inspecting, ends⟩
  · exact .done (.refused ((ends.definite error rfl).tolerable.definite (by decide)))
  · obtain ⟨look, member, told⟩ := (ends.tells receipt).mp rfl
    dsimp only
    by_cases missing : receipt.status = .missing
    · rw [if_neg (not_not.mpr missing)]
      have fresh : ∀ entry ∈ inspections, ¬IsBroadcast entry.op := fun entry member => (inspecting entry member).quiet
      have unseen : ∀ entry ∈ inspections, ∀ hash, ¬Found publisher input hash entry := by
        rintro entry member hash ⟨_, other, same, told, there, _⟩
        obtain rfl := Except.ok.inj (computed.symm.trans same)
        obtain rfl := Except.ok.inj ((ends.tells other).mpr ⟨entry, member, told⟩)
        exact there missing
      refine Keeps.except_catch ((submitCreate_keeps fresh ⟨look, member, told.missing missing⟩).post ?_)
      rintro (error | created) after ⟨steps, rfl, submitted⟩
      · refine (recoverCreate_keeps looks computed _).post ?_
        rintro result after ⟨recovery, rfl, recovering, recovered⟩
        have made : ∃ entry ∈ (inspections ++ steps) ++ recovery, IsCreate entry.op := submitted.submitted.imp fun entry
          holds =>
          ⟨List.mem_append_left _ (List.mem_append_right _ holds.1), holds.2⟩
        refine ⟨fun receipt same => ?_, fun other same => Or.inr (recovered.unknown other same).1, ?_, fun same => ⟨?_, ?_⟩⟩
        · obtain ⟨confirmed, hash, created, entry, member, found⟩ := recovered.confirmed receipt same
          exact ⟨confirmed, hash, created, entry, List.mem_append_right _ member, Or.inr found.observed⟩
        · intro other _ without
          obtain ⟨entry, member, creates⟩ := made
          exact absurd creates (without entry member)
        · simp only [List.forall_mem_append]
          refine ⟨⟨unseen, ?_⟩, (recovered.unknown _ same).2⟩
          rintro entry member hash ⟨_, _, _, ⟨_, _, rfl, _⟩, _⟩
          exact submitted.other _ member trivial
        · refine (submitted.failed error rfl).imp ?_ ?_
          · exact fun ⟨entry, member, holds⟩ => ⟨entry, List.mem_append_left _ (List.mem_append_right _ member), holds⟩
          · exact fun ⟨entry, member, holds⟩ => ⟨entry, List.mem_append_left _ (List.mem_append_right _ member), holds⟩
      · refine ⟨fun receipt same => ?_, nofun, nofun, nofun⟩
        obtain ⟨confirmed, hash, same, entry, member, accepted⟩ := submitted.accepted receipt same
        exact ⟨confirmed, hash, same, entry, List.mem_append_right _ member, Or.inl accepted⟩
    · rw [if_pos missing]
      have refused : CreateEnds publisher input (.error (refusal .createFailed
          "Existing Greenfield object has no canonical create transaction")) inspections :=
        .refused (show PublicationFailureCode.createFailed ∈ definiteCodes by decide)
      split
      · next reference hash referred created =>
        refine .done ⟨fun receipt same => ?_, nofun, nofun, nofun⟩
        cases same
        exact ⟨rfl, hash, rfl, look, member, Or.inr ((told.present computed missing).2 hash created)⟩
      · exact .done refused


/-! ### The canary bucket -/

/-- The bucket itself is the configured one: its name, owner and visibility. -/
structure Configured (publisher : GreenfieldSdkPublisher) (info : Record) : Prop where
  name : stringField (firstField (some info) ["bucketName", "BucketName", "bucket_name"]) = some publisher.bucket.text
  owner : ∃ owner, stringField (firstField (some info) ["owner", "Owner", "creator", "Creator"]) = some owner ∧
    lower owner = lower publisher.creator
  publicRead : publicReadVisibility
    (firstField (some info) ["visibility", "Visibility", "bucketVisibility", "bucket_visibility"]) = true

variable (publisher) in
def BucketMissing (entry : SdkEntry) : Prop :=
  ∃ answer, entry = ⟨.headBucket, answer⟩ ∧ publisher.headLook answer = .ok .missing

variable (publisher) in
def LeftOpen (provider : GreenfieldStorageProviderPin) : SdkEntry → Prop
  | ⟨.headBucket, answer⟩ => publisher.headLook answer = .ok .unknown
  | ⟨.getGlobalVirtualGroupFamily _, answer⟩ => familyLook answer = .ok .unknown
  | ⟨.getStorageProviders, answer⟩ => ∃ primarySpId, providersLook provider primarySpId answer = .ok .unknown
  | ⟨.getBucketMeta _, answer⟩ => metaLook answer = .ok .unknown
  | _ => False

variable (publisher) in
def BucketShown (provider : GreenfieldStorageProviderPin) (hash : String) (looks : SdkHistory) : Prop :=
  ∃ bucket family providers metadata familyId primarySpId,
    looks = [⟨.headBucket, bucket⟩, ⟨.getGlobalVirtualGroupFamily familyId, family⟩, ⟨.getStorageProviders, providers⟩,
      ⟨.getBucketMeta provider.endpoint, metadata⟩] ∧
    publisher.headLook bucket = .ok (.further familyId) ∧ familyLook family = .ok (.further primarySpId) ∧
    providersLook provider primarySpId providers = .ok (.further ()) ∧ metaLook metadata = .ok (.further hash)

def IsBucketLook : SdkCall → Prop
  | .headBucket => True
  | .getGlobalVirtualGroupFamily _ => True
  | .getStorageProviders => True
  | .getBucketMeta _ => True
  | _ => False

variable (publisher) in
structure LookEnds (provider : GreenfieldStorageProviderPin) (result : Except Thrown (Look String)) (looks : SdkHistory) :
    Prop where
  looking : ∀ entry ∈ looks, IsBucketLook entry.op
  found : ∀ hash, result = .ok (.further hash) ↔ BucketShown publisher provider hash looks
  missing : result = .ok .missing → ∃ entry ∈ looks, BucketMissing publisher entry
  unknown : result = .ok .unknown → ∃ entry ∈ looks, LeftOpen publisher provider entry
  definite : Errors Definite result

omit [UrlParser] in
theorem checkedBucket_configured {info : Record} {familyId : Rat} (checked : publisher.checkedBucket info = .ok familyId) :
    Configured publisher info := by
  unfold checkedBucket at checked
  dsimp only at checked
  split at checked
  · next bucketName owner name owned =>
    simp only [refuseIf_bind_eq_ok, not_not] at checked
    obtain ⟨_, named, same, visible, _⟩ := checked
    exact ⟨named ▸ name, ⟨owner, owned, same⟩, eq_true_of_ne_false visible⟩
  · cases checked

theorem BucketShown.configured {provider : GreenfieldStorageProviderPin} {hash : String} {looks : SdkHistory}
    (shown : BucketShown publisher provider hash looks) :
    ∃ response info, ⟨.headBucket, .ok response⟩ ∈ looks ∧ bucketInfoFromResponse response = some info ∧
      Configured publisher info := by
  obtain ⟨bucket, family, providers, metadata, familyId, primarySpId, rfl, headed, _⟩ := shown
  unfold headLook at headed
  cases bucket with
  | error error =>
    dsimp only at headed
    split at headed <;> cases headed
  | ok response =>
    dsimp only at headed
    split at headed
    · cases headed
    · split at headed
      · cases headed
      · split at headed
        · cases headed
        · next info read =>
          cases checked : publisher.checkedBucket info with
          | error error =>
            rw [checked] at headed
            cases headed
          | ok familyId => exact ⟨response, info, List.mem_cons_self, read, checkedBucket_configured checked⟩

omit [UrlParser] in
theorem checkedBucket_errors (info : Record) : Errors Definite (publisher.checkedBucket info) := by
  unfold checkedBucket
  dsimp only
  split
  · refine Errors.bind (Errors.checked (by decide)) fun _ => Errors.bind (Errors.checked (by decide)) fun _ =>
      Errors.bind (Errors.checked (by decide)) fun _ => Errors.bind (Errors.checked (by decide)) fun _ =>
      Errors.bind (Errors.checked (by decide)) fun _ => Errors.bind (Errors.checked (by decide)) fun _ => ?_
    split
    · exact Errors.ok
    · exact Errors.refused (by decide)
  · exact Errors.refused (by decide)

omit [UrlParser] in
theorem headLook_errors (answer : Except Foreign Record) : Errors Definite (publisher.headLook answer) := by
  unfold headLook
  cases answer with
  | error error => exact Errors.ok
  | ok response =>
    dsimp only
    split
    · exact Errors.ok
    · split
      · exact Errors.ok
      · split
        · exact Errors.refused (by decide)
        · exact Errors.map (checkedBucket_errors _)

omit [UrlParser] in
theorem familyLook_errors (answer : Except Foreign Value) : Errors Definite (familyLook answer) := by
  unfold familyLook
  cases answer with
  | error error => exact Errors.ok
  | ok response =>
    dsimp only
    split
    · exact Errors.ok
    · split
      · exact Errors.ok
      · exact Errors.refused (by decide)

omit [Platform] in
theorem checkedProvider_errors (provider : GreenfieldStorageProviderPin) (storageProvider : Record) :
    Errors Definite (checkedProvider provider storageProvider) := by
  unfold checkedProvider
  dsimp only
  split
  · split
    · exact Errors.refused (by decide)
    · exact Errors.checked (by decide)
  · exact Errors.refused (by decide)

theorem providersLook_errors (provider : GreenfieldStorageProviderPin) (primarySpId : Rat) (answer : Except Foreign Value) :
    Errors Definite (providersLook provider primarySpId answer) := by
  unfold providersLook
  cases answer with
  | error error => exact Errors.ok
  | ok response =>
    dsimp only
    split
    · exact Errors.refused (by decide)
    · split
      · exact Errors.refused (by decide)
      · exact Errors.map (checkedProvider_errors _ _)

omit [UrlParser] in
theorem metaLook_errors (answer : Except Foreign Record) : Errors Definite (metaLook answer) := by
  unfold metaLook
  cases answer with
  | error error => exact Errors.ok
  | ok response =>
    dsimp only
    split
    · exact Errors.ok
    · split
      · exact Errors.refused (by decide)
      · split
        · exact Errors.refused (by decide)
        · split
          · exact Errors.refused (by decide)
          · exact Errors.ok

omit [Platform] in
theorem bucketProviderPin_errors : Errors Definite publisher.bucketProviderPin := by
  refine Errors.bind (Errors.checked (by decide)) fun _ => ?_
  cases publisher.spEndpoint with
  | none =>
    refine Errors.bind Errors.ok fun endpoint => ?_
    dsimp only
    split
    · exact Errors.ok
    · exact Errors.refused (by decide)
  | some endpoint =>
    refine Errors.bind (Errors.map (canonicalHttpsUrl_errors _ _)) fun endpoint => ?_
    dsimp only
    split
    · exact Errors.ok
    · exact Errors.refused (by decide)

theorem LookEnds.short {provider : GreenfieldStorageProviderPin} {result : Except Thrown (Look String)} {looks : SdkHistory}
    (looking : ∀ entry ∈ looks, IsBucketLook entry.op) (short : looks.length < 4)
    (other : ∀ hash, result ≠ .ok (.further hash))
    (missing : result = .ok .missing → ∃ entry ∈ looks, BucketMissing publisher entry)
    (unknown : result = .ok .unknown → ∃ entry ∈ looks, LeftOpen publisher provider entry)
    (definite : Errors Definite result) : LookEnds publisher provider result looks where
  looking := looking
  found hash := by
    refine ⟨fun same => absurd same (other hash), ?_⟩
    rintro ⟨_, _, _, _, _, _, rfl, _⟩
    exact absurd short (lt_irrefl 4)
  missing := missing
  unknown := unknown
  definite := definite

omit [UrlParser] in
theorem familyLook_not_missing {answer : Except Foreign Value} : familyLook answer ≠ .ok .missing := by
  unfold familyLook
  cases answer with
  | error error => exact nofun
  | ok response =>
    dsimp only
    split
    · exact nofun
    · split <;> exact nofun

theorem providersLook_not_missing {provider : GreenfieldStorageProviderPin} {primarySpId : Rat}
    {answer : Except Foreign Value} : providersLook provider primarySpId answer ≠ .ok .missing := by
  unfold providersLook
  cases answer with
  | error error => exact nofun
  | ok response =>
    dsimp only
    split
    · exact nofun
    · split
      · exact nofun
      · next storageProvider _ =>
        cases checkedProvider provider storageProvider <;> exact nofun

omit [UrlParser] in
theorem metaLook_not_missing {answer : Except Foreign Record} : metaLook answer ≠ .ok .missing := by
  unfold metaLook
  cases answer with
  | error error => exact nofun
  | ok response =>
    dsimp only
    split
    · exact nofun
    · split
      · exact nofun
      · split
        · exact nofun
        · split <;> exact nofun

theorem inspectCanaryBucket_keeps (looks : ∀ history op, IsBucketLook op → guard history op)
    (provider : GreenfieldStorageProviderPin) (before : SdkHistory) :
    Keeps guard (fun result after => ∃ looks, after = before ++ looks ∧ LookEnds publisher provider result looks)
      (publisher.inspectCanaryBucket provider).run before := by
  have failed : ∀ {looks : SdkHistory} {error}, (∀ entry ∈ looks, IsBucketLook entry.op) → looks.length < 4 →
      Definite error → ∃ more, before ++ looks = before ++ more ∧ LookEnds publisher provider (.error error) more :=
    fun looking short definite => ⟨_, rfl, .short looking short nofun nofun nofun (Errors.error definite)⟩
  have left : ∀ {looks : SdkHistory} {entry : SdkEntry}, (∀ entry ∈ looks, IsBucketLook entry.op) → looks.length < 4 →
      entry ∈ looks → LeftOpen publisher provider entry →
      ∃ more, before ++ looks = before ++ more ∧ LookEnds publisher provider (.ok .unknown) more :=
    fun looking short member unknown =>
      ⟨_, rfl, .short looking short nofun nofun (fun _ => ⟨_, member, unknown⟩) Errors.ok⟩
  unfold inspectCanaryBucket
  refine Keeps.lift_bind ?_ fun _ _ => Keeps.ask_bind (looks _ _ trivial) fun bucket => Keeps.lift_bind ?_ fun head headed => ?_
  · intro error refused
    have ends := @failed [] error nofun (by decide) (Errors.checked (by decide) error refused)
    rwa [List.append_nil] at ends
  · exact fun error refused => failed (by simp [IsBucketLook]) (by simp) (headLook_errors _ error refused)
  cases head with
  | missing =>
    refine .done ⟨_, rfl, .short (by simp [IsBucketLook]) (by simp) nofun (fun _ => ?_) nofun Errors.ok⟩
    exact ⟨_, List.mem_singleton_self _, bucket, rfl, headed⟩
  | unknown => exact .done (left (by simp [IsBucketLook]) (by simp) (List.mem_singleton_self _) headed)
  | further familyId =>
    refine Keeps.lift_bind ?_ fun _ _ => Keeps.ask_bind (looks _ _ trivial) fun family => ?_
    · exact fun error refused => failed (by simp [IsBucketLook]) (by simp) (Errors.checked (by decide) error refused)
    rw [List.append_assoc]
    refine Keeps.lift_bind ?_ fun primary familiar => ?_
    · exact fun error refused => failed (by simp [IsBucketLook]) (by simp) (familyLook_errors _ error refused)
    cases primary with
    | missing => exact absurd familiar familyLook_not_missing
    | unknown =>
      exact .done (left (by simp [IsBucketLook]) (by simp) (List.mem_append_right _ (List.mem_singleton_self _)) familiar)
    | further primarySpId =>
      refine Keeps.lift_bind ?_ fun _ _ => Keeps.ask_bind (looks _ _ trivial) fun providers => ?_
      · exact fun error refused => failed (by simp [IsBucketLook]) (by simp) (Errors.checked (by decide) error refused)
      rw [List.append_assoc]
      refine Keeps.lift_bind ?_ fun pinned provided => ?_
      · exact fun error refused => failed (by simp [IsBucketLook]) (by simp) (providersLook_errors _ _ _ error refused)
      cases pinned with
      | missing => exact absurd provided providersLook_not_missing
      | unknown =>
        exact .done (left (by simp [IsBucketLook]) (by simp) (List.mem_append_right _ (List.mem_singleton_self _))
          ⟨primarySpId, provided⟩)
      | further done =>
        refine Keeps.lift_bind ?_ fun _ _ => Keeps.ask_bind (looks _ _ trivial) fun metadata => ?_
        · exact fun error refused => failed (by simp [IsBucketLook]) (by simp) (Errors.checked (by decide) error refused)
        rw [List.append_assoc]
        refine .done ⟨_, rfl, by simp [IsBucketLook], fun hash => ⟨fun read => ?_, ?_⟩, ?_, fun same => ?_, metaLook_errors _⟩
        · exact ⟨bucket, family, providers, metadata, familyId, primarySpId, rfl, headed, familiar, provided, read⟩
        · rintro ⟨_, _, _, _, _, _, same, _, _, _, read⟩
          cases same
          exact read
        · exact fun same => absurd same metaLook_not_missing
        · exact ⟨_, List.mem_append_right _ (List.mem_singleton_self _), same⟩

def BucketAccepted (hash : String) (entry : SdkEntry) : Prop :=
  ∃ options response, entry = ⟨.broadcast options, .ok response⟩ ∧ responseCode response = some 0 ∧
    transactionHashFromResponse response = some hash

def Rejected (entry : SdkEntry) : Prop :=
  ∃ options response, entry = ⟨.broadcast options, .ok response⟩ ∧ responseCode response ≠ some 0

def LoaderFailed (error : Thrown) (entry : SdkEntry) : Prop :=
  ∃ failure, error = .provider failure ∧ entry = ⟨.loadSecret, .error (.provider failure)⟩

variable (publisher) in
/-- A broadcast is the first one, and follows an observation that the bucket is missing, with no earlier broadcast of the
instance open. -/
def MayEnsure (canaryBucketUnknown : Bool) (history : SdkHistory) (op : SdkCall) : Prop :=
  IsBroadcast op → (∀ entry ∈ history, ¬IsBroadcast entry.op) ∧ canaryBucketUnknown = false ∧
    ∃ entry ∈ history, BucketMissing publisher entry

omit [UrlParser] in
theorem gas_errors (simulation : Option Record) : Errors Definite (publisher.gas simulation) := by
  unfold gas
  dsimp only
  split
  · exact Errors.refused (by decide)
  · split
    · exact Errors.refused (by decide)
    · exact Errors.ok

omit [Platform] [UrlParser] in
theorem normalizePrivateKey_errors (value : Value) : Errors Definite (normalizePrivateKey value) := by
  unfold normalizePrivateKey
  split
  · exact Errors.unless (by decide)
  · exact Errors.refused (by decide)

omit [UrlParser] in
theorem loadedKey_failed {answer : Except Thrown Value} {error : Thrown} (failed : loadedKey answer = .error error) :
    Definite error ∨ LoaderFailed error ⟨.loadSecret, answer⟩ := by
  cases answer with
  | error thrown =>
    cases failed
    cases thrown with
    | provider failure => exact Or.inr ⟨failure, rfl, rfl⟩
    | foreign foreign => exact Or.inl (Tolerable.definite trivial (by decide))
  | ok value =>
    have definite : Errors Definite (loadedKey (.ok value)) := Errors.rescued (by decide) fun other same =>
      (normalizePrivateKey_errors value other same).tolerable
    exact Or.inl (definite error failed)

omit [UrlParser] in
/-- The steps from the transaction of a bucket to its broadcast: a failure is definite, or the loader's own. -/
theorem prepareBucket_keeps (steps : ∀ history op, ¬IsBroadcast op → guard history op)
    (provider : GreenfieldStorageProviderPin) (before : SdkHistory) :
    Keeps guard (fun result after => ∃ steps, after = before ++ steps ∧
        (∀ entry ∈ steps, ¬IsBroadcast entry.op) ∧
        ∀ error, result = .error error → Definite error ∨ ∃ entry ∈ steps, LoaderFailed error entry)
      (publisher.prepareBucket provider).run before := by
  have failed : ∀ {steps : SdkHistory} {error}, (∀ entry ∈ steps, ¬IsBroadcast entry.op) → Definite error →
      ∃ more, before ++ steps = before ++ more ∧ (∀ entry ∈ more, ¬IsBroadcast entry.op) ∧
        ∀ other, (.error error : Except Thrown BroadcastOptions) = .error other →
          Definite other ∨ ∃ entry ∈ more, LoaderFailed other entry := by
    intro steps error quiet definite
    refine ⟨_, rfl, quiet, fun other same => ?_⟩
    cases same
    exact Or.inl definite
  unfold prepareBucket
  refine Keeps.ask_bind (steps _ _ not_false) fun created => Keeps.lift_bind ?_ fun tx _ => ?_
  · exact fun error refused => failed (by simp [IsBroadcast]) (Errors.rescued (by decide) Errors.foreign error refused)
  refine Keeps.lift_bind ?_ fun _ _ => Keeps.ask_bind (steps _ _ not_false) fun simulated =>
    Keeps.lift_bind ?_ fun simulation _ => ?_
  · exact fun error refused => failed (by simp [IsBroadcast]) (Errors.checked (by decide) error refused)
  · rw [List.append_assoc]
    exact fun error refused => failed (by simp [IsBroadcast]) (Errors.rescued (by decide) Errors.foreign error refused)
  rw [List.append_assoc]
  refine Keeps.except_catch ((broadcastOptions_keeps (fun _ => steps _ _ not_false) _ _).post ?_)
  rintro result after (⟨rfl, error, rfl, dry⟩ | ⟨answer, rfl, unkeyed⟩)
  · exact .done (failed (by simp [IsBroadcast]) ((gas_errors _ error dry).tolerable.definite (by decide)))
  · rw [List.append_assoc]
    cases result with
    | ok options => exact ⟨_, rfl, by simp [IsBroadcast], nofun⟩
    | error error =>
      refine .done ⟨_, rfl, by simp [IsBroadcast], fun other same => ?_⟩
      cases same
      rcases loadedKey_failed (unkeyed error rfl) with definite | loader
      · exact Or.inl (definite.tolerable.definite (by decide))
      · refine Or.inr ⟨_, List.mem_append_right _ (List.mem_singleton_self _), ?_⟩
        obtain ⟨failure, rfl, same⟩ := loader
        exact ⟨failure, rfl, same⟩

variable (publisher) in
structure EnsureEnds (canaryBucketUnknown : Bool) (result : Except Thrown GreenfieldBucketEnsureReceipt) (log : SdkHistory) :
    Prop where
  created : ∀ receipt, result = .ok receipt → receipt.status = .created →
    ∃ hash, receipt.creationTransactionHash = some hash ∧ ∃ entry ∈ log, BucketAccepted hash entry
  reused : ∀ receipt, result = .ok receipt → receipt.status = .reused →
    ∃ hash provider, receipt.creationTransactionHash = some hash ∧ publisher.bucketProviderPin = .ok provider ∧
      (∃ earlier looks later, log = earlier ++ looks ++ later ∧ BucketShown publisher provider hash looks) ∧
      ∃ response info, ⟨.headBucket, .ok response⟩ ∈ log ∧ bucketInfoFromResponse response = some info ∧
        Configured publisher info
  unknown : ∀ receipt, result = .ok receipt → receipt.status = .unknown → receipt.creationTransactionHash = none ∧
    (((∀ entry ∈ log, ¬IsBroadcast entry.op) ∧ (canaryBucketUnknown = true ∨
        ∃ provider, publisher.bucketProviderPin = .ok provider ∧ ∃ entry ∈ log, LeftOpen publisher provider entry)) ∨
      ∃ earlier options answer looks, log = earlier ++ ⟨.broadcast options, answer⟩ :: ⟨.markCanaryBucket true, ()⟩ :: looks ∧
        ¬Rejected ⟨.broadcast options, answer⟩ ∧ (∀ hash, ¬BucketAccepted hash ⟨.broadcast options, answer⟩) ∧
        ∀ provider, publisher.bucketProviderPin = .ok provider → ∀ hash, ¬BucketShown publisher provider hash looks)
  thrown : ∀ error, result = .error error → Definite error ∨ ∃ entry ∈ log, LoaderFailed error entry
  rejected : (∃ entry ∈ log, Rejected entry) → ∃ error, result = .error error ∧ Definite error
  unsent : (∃ entry ∈ log, IsCreate entry.op) → (∀ entry ∈ log, ¬IsBroadcast entry.op) → ∃ error, result = .error error

theorem EnsureEnds.error {canaryBucketUnknown : Bool} {error : Thrown} {log : SdkHistory}
    (holds : Definite error ∨ ((∃ entry ∈ log, LoaderFailed error entry) ∧ ∀ entry ∈ log, ¬IsBroadcast entry.op)) :
    EnsureEnds publisher canaryBucketUnknown (.error error) log where
  created := nofun
  reused := nofun
  unknown := nofun
  thrown other same := by
    cases same
    exact holds.imp_right And.left
  rejected rejection := by
    rcases holds with definite | ⟨_, quiet⟩
    · exact ⟨error, rfl, definite⟩
    · obtain ⟨_, member, _, _, rfl, _⟩ := rejection
      exact absurd trivial (quiet _ member)
  unsent _ _ := ⟨error, rfl⟩

theorem EnsureEnds.shown {canaryBucketUnknown : Bool} {provider : GreenfieldStorageProviderPin} {hash : String}
    {earlier looks later : SdkHistory} (pinned : publisher.bucketProviderPin = .ok provider)
    (shown : BucketShown publisher provider hash looks)
    (other : ∀ entry ∈ earlier ++ looks ++ later, ¬Rejected entry)
    (sent : (∃ entry ∈ earlier ++ looks ++ later, IsCreate entry.op) → ∃ entry ∈ earlier ++ looks ++ later,
      IsBroadcast entry.op) :
    EnsureEnds publisher canaryBucketUnknown (.ok (publisher.bucketReceipt .reused (some hash) provider))
      (earlier ++ looks ++ later) where
  created receipt same status := by
    cases same
    cases status
  reused receipt same _ := by
    cases same
    refine ⟨hash, provider, rfl, pinned, ⟨earlier, looks, later, rfl, shown⟩, ?_⟩
    obtain ⟨response, info, member, read, configured⟩ := shown.configured
    exact ⟨response, info, List.mem_append_left _ (List.mem_append_right _ member), read, configured⟩
  unknown receipt same status := by
    cases same
    cases status
  thrown := nofun
  rejected := fun ⟨entry, member, rejection⟩ => absurd rejection (other entry member)
  unsent made quiet := by
    obtain ⟨entry, member, broadcast⟩ := sent made
    exact absurd broadcast (quiet entry member)

omit [Platform] [UrlParser] in
theorem IsBucketLook.quiet {op : SdkCall} (look : IsBucketLook op) : ¬IsBroadcast op := by
  cases op <;> first | exact not_false | exact look.elim

theorem EnsureEnds.withheld {canaryBucketUnknown : Bool} {provider : GreenfieldStorageProviderPin} {looks : SdkHistory}
    (looking : ∀ entry ∈ looks, IsBucketLook entry.op) (reason : canaryBucketUnknown = true ∨
      ∃ provider, publisher.bucketProviderPin = .ok provider ∧ ∃ entry ∈ looks, LeftOpen publisher provider entry) :
    EnsureEnds publisher canaryBucketUnknown (.ok (publisher.bucketReceipt .unknown none provider)) looks where
  created receipt same status := by
    cases same
    cases status
  reused receipt same status := by
    cases same
    cases status
  unknown receipt same _ := by
    cases same
    exact ⟨rfl, Or.inl ⟨fun entry member => (looking entry member).quiet, reason⟩⟩
  thrown := nofun
  rejected := fun ⟨_, member, _, _, same, _⟩ => absurd (looking _ member) (same ▸ not_false)
  unsent := by
    rintro ⟨⟨op, answer⟩, member, made⟩
    have look := looking _ member
    cases op <;> first | exact look.elim | exact made.elim

/-- What follows a broadcast whose answer said nothing. -/
theorem reconcileCanaryBucket_keeps (others : ∀ history op, ¬IsBroadcast op → guard history op)
    {canaryBucketUnknown : Bool} {provider : GreenfieldStorageProviderPin} {before : SdkHistory}
    {options : BroadcastOptions} {answer : Except Foreign Record} (pinned : publisher.bucketProviderPin = .ok provider)
    (quiet : ∀ entry ∈ before, ¬IsBroadcast entry.op) (told : ¬Rejected ⟨.broadcast options, answer⟩)
    (hashless : ∀ hash, ¬BucketAccepted hash ⟨.broadcast options, answer⟩) :
    Keeps guard (EnsureEnds publisher canaryBucketUnknown) (publisher.reconcileCanaryBucketAfterUnknown provider).run
      ((before ++ [⟨.broadcast options, answer⟩]) ++ [⟨.markCanaryBucket true, ()⟩]) := by
  have unrejected : ∀ entry ∈ (before ++ [⟨.broadcast options, answer⟩]) ++ [⟨.markCanaryBucket true, ()⟩],
      ¬Rejected entry := by
    simp only [List.forall_mem_append, List.forall_mem_singleton]
    refine ⟨⟨?_, told⟩, nofun⟩
    rintro _ member ⟨_, _, rfl, _⟩
    exact quiet _ member trivial
  unfold reconcileCanaryBucketAfterUnknown
  refine Keeps.except_bind ((inspectCanaryBucket_keeps (fun _ _ look => others _ _ look.quiet) provider _).post ?_)
  rintro (error | look) after ⟨looks, rfl, ends⟩
  · exact .error (Or.inl (ends.definite error rfl))
  have calm : ∀ entry ∈ looks, ¬Rejected entry := by
    rintro _ member ⟨_, _, rfl, _⟩
    exact (ends.looking _ member).quiet trivial
  have sent : ∀ later : SdkHistory, ∃ entry ∈ ((before ++ [⟨.broadcast options, answer⟩]) ++ [⟨.markCanaryBucket true,
    ()⟩]) ++ looks ++ later,
      IsBroadcast entry.op := fun later => ⟨⟨.broadcast options, answer⟩, by simp, trivial⟩
  have unresolved : (∀ hash, look ≠ .further hash) → EnsureEnds publisher canaryBucketUnknown
      (.ok (publisher.bucketReceipt .unknown none provider))
      (((before ++ [⟨.broadcast options, answer⟩]) ++ [⟨.markCanaryBucket true, ()⟩]) ++ looks) := by
    intro unfound
    refine ⟨fun receipt same status => ?_, fun receipt same status => ?_, fun receipt same _ => ?_, nofun, ?_, ?_⟩
    · cases same
      cases status
    · cases same
      cases status
    · cases same
      refine ⟨rfl, Or.inr ⟨before, options, answer, looks, by simp, told, hashless, fun other same hash shown => ?_⟩⟩
      obtain rfl := Except.ok.inj (pinned.symm.trans same)
      exact unfound hash (Except.ok.inj ((ends.found hash).mpr shown))
    · rintro ⟨entry, member, rejection⟩
      exact ((List.mem_append.mp member).elim (unrejected entry) (calm entry) rejection).elim
    · intro _ silent
      obtain ⟨entry, member, broadcast⟩ := sent []
      exact absurd broadcast (silent entry (by simpa using member))
  cases look with
  | further hash =>
    refine Keeps.ask_bind (others _ _ not_false) fun _ => .done (.shown pinned ((ends.found hash).mp rfl) ?_ fun _ => sent _)
    simp only [List.forall_mem_append, List.forall_mem_singleton] at unrejected ⊢
    exact ⟨⟨unrejected, calm⟩, nofun⟩
  | missing => exact .done (unresolved nofun)
  | unknown => exact .done (unresolved nofun)

theorem ensureCanaryBucket_keeps (canaryBucketUnknown : Bool) :
    Keeps (MayEnsure publisher canaryBucketUnknown) (EnsureEnds publisher canaryBucketUnknown)
      (publisher.ensureCanaryBucket canaryBucketUnknown).run [] := by
  have others : ∀ history op, ¬IsBroadcast op → MayEnsure publisher canaryBucketUnknown history op :=
    fun _ _ quiet broadcast => absurd broadcast quiet
  have looks : ∀ history op, IsBucketLook op → MayEnsure publisher canaryBucketUnknown history op :=
    fun _ _ look => others _ _ look.quiet
  unfold ensureCanaryBucket
  refine Keeps.lift_bind (fun error failed => .error (Or.inl (bucketProviderPin_errors error failed))) fun provider pinned => ?_
  refine Keeps.except_bind ((inspectCanaryBucket_keeps looks provider []).post ?_)
  rintro (error | look) inspections ⟨_, rfl, ends⟩
  · exact .error (Or.inl (ends.definite error rfl))
  have quiet : ∀ entry ∈ inspections, ¬IsBroadcast entry.op := fun entry member => (ends.looking entry member).quiet
  cases look with
  | further hash =>
    refine Keeps.ask_bind (others _ _ not_false) fun _ => .done ?_
    refine @EnsureEnds.shown _ _ _ _ provider hash [] inspections [⟨.markCanaryBucket false, ()⟩] pinned
      ((ends.found hash).mp rfl) ?_ ?_
    · simp only [List.nil_append, List.forall_mem_append, List.forall_mem_singleton]
      refine ⟨?_, nofun⟩
      rintro _ member ⟨_, _, rfl, _⟩
      exact quiet _ member trivial
    · rintro ⟨⟨op, answer⟩, member, made⟩
      rcases List.mem_append.mp member with old | new
      · have look := ends.looking _ old
        cases op <;> first | exact look.elim | exact made.elim
      · cases List.mem_singleton.mp new
        exact made.elim
  | unknown => exact .done (.withheld ends.looking (Or.inr ⟨provider, pinned, ends.unknown rfl⟩))
  | missing =>
    cases canaryBucketUnknown with
    | true => exact .done (.withheld ends.looking (Or.inl rfl))
    | false =>
      refine Keeps.lift_bind (fun error failed => .error (Or.inl (Errors.checked (by decide) error failed))) fun _ _ => ?_
      refine Keeps.except_bind ((prepareBucket_keeps others provider inspections).post ?_)
      rintro (error | options) after ⟨steps, rfl, silent, failed⟩
      · refine .error ((failed error rfl).imp_right fun ⟨entry, member, loader⟩ =>
          ⟨⟨entry, List.mem_append_right _ member, loader⟩, ?_⟩)
        exact List.forall_mem_append.mpr ⟨quiet, silent⟩
      · have before : ∀ entry ∈ inspections ++ steps, ¬IsBroadcast entry.op := List.forall_mem_append.mpr ⟨quiet, silent⟩
        have allowed : MayEnsure publisher false (inspections ++ steps) (.broadcast options) := by
          refine fun _ => ⟨before, rfl, ?_⟩
          obtain ⟨entry, member, missing⟩ := ends.missing rfl
          exact ⟨entry, List.mem_append_left _ member, missing⟩
        refine Keeps.ask_bind allowed fun answer => ?_
        unfold settleBucket
        cases answer with
        | error error =>
          refine Keeps.ask_bind (others _ _ not_false) fun _ => reconcileCanaryBucket_keeps others pinned before ?_ ?_
          · rintro ⟨_, _, same, _⟩
            cases same
          · rintro hash ⟨_, _, same, _⟩
            cases same
        | ok response =>
          refine Keeps.lift_bind (fun error failed => .error (Or.inl (Errors.checked (by decide) error failed))) fun _
            passed => ?_
          have accepted : responseCode response = some 0 := not_not.mp (refuseIf_eq_ok.mp passed)
          have told : ¬Rejected ⟨.broadcast options, .ok response⟩ := by
            rintro ⟨_, _, same, code⟩
            cases same
            exact code accepted
          cases hashed : transactionHashFromResponse response with
          | none =>
            refine Keeps.ask_bind (others _ _ not_false) fun _ => reconcileCanaryBucket_keeps others pinned before told ?_
            rintro hash ⟨_, _, same, _, read⟩
            cases same
            rw [hashed] at read
            cases read
          | some hash =>
            refine Keeps.ask_bind (others _ _ not_false) fun _ => .done ?_
            have sent : ⟨.broadcast options, .ok response⟩ ∈
                ((inspections ++ steps) ++ [⟨.broadcast options, .ok response⟩]) ++ [⟨.markCanaryBucket false, ()⟩] := by
              simp
            refine ⟨fun receipt same _ => ?_, fun receipt same status => ?_, fun receipt same status => ?_, nofun, ?_, ?_⟩
            · cases same
              exact ⟨hash, rfl, _, sent, options, response, rfl, accepted, hashed⟩
            · cases same
              cases status
            · cases same
              cases status
            · rintro ⟨entry, member, rejection⟩
              simp only [List.mem_append, List.mem_singleton] at member
              rcases member with (old | rfl) | rfl
              · obtain ⟨_, _, rfl, _⟩ := rejection
                exact absurd trivial (before _ (List.mem_append.mpr old))
              · exact absurd rejection told
              · obtain ⟨_, _, same, _⟩ := rejection
                cases same
            · exact fun _ without => absurd trivial (without _ sent)

/-- The creates of the adapter: at most one broadcast, after the object or the bucket was observed missing, and an outcome
that the answers warrant. -/
theorem creates_classified (publisher : GreenfieldSdkPublisher) (input : CreateInput) (canaryBucketUnknown : Bool) :
    (∀ log program, Follows (publisher.createObject input).run log program →
      ∀ earlier entry later, log = earlier ++ entry :: later → MayCreate input.objectName earlier entry.op) ∧
    (∀ log result, Follows (publisher.createObject input).run log (.done result) → CreateEnds publisher input result log) ∧
    (∀ log program, Follows (publisher.ensureCanaryBucket canaryBucketUnknown).run log program →
      ∀ earlier entry later, log = earlier ++ entry :: later →
        MayEnsure publisher canaryBucketUnknown earlier entry.op) ∧
    ∀ log result, Follows (publisher.ensureCanaryBucket canaryBucketUnknown).run log (.done result) →
      EnsureEnds publisher canaryBucketUnknown result log :=
  ⟨fun _ _ follows _ _ _ split => follows.permitted createObject_keeps split,
    fun _ _ follows => (follows.keeps createObject_keeps).result,
    fun _ _ follows _ _ _ split => follows.permitted (ensureCanaryBucket_keeps _) split,
    fun _ _ follows => (follows.keeps (ensureCanaryBucket_keeps _)).result⟩

end

/-! ### A create that is never sent -/

section

@[reducible] def plainPlatform : Platform where
  number := fun _ => none
  base64ToBytes := fun _ => []
  redact := id
  saysNotFound := fun _ => false

@[reducible] def plainUrlParser : UrlParser where
  parse := fun text => some ⟨"https:", "", "", "", "", "", "", "", text⟩
  resolve := fun _ _ => none

attribute [local instance] plainPlatform plainUrlParser

def samplePublisher : GreenfieldSdkPublisher where
  bucket := ⟨"evidence", by decide⟩
  creator := "0xaa"
  providerPins := [⟨"sp", "https://sp", "0xbb"⟩]
  providerLabel := none
  spEndpoint := none
  transaction := some ⟨"BNB", some (.number 1), some "1", none⟩
  encode := .error "no encoder"
  headObject := false
  getSPUrlByBucket := true
  createBucket := true
  headBucket := true
  getBucketMeta := true
  getGlobalVirtualGroupFamily := true
  getStorageProviders := true

def sampleInput : CreateInput := ⟨"object", 1, none, some [[1]]⟩

def unavailable : Foreign := ⟨.undefined, some "unavailable"⟩

/-- No object, no bucket query and no secret. -/
def sampleAnswers : (op : SdkCall) → op.Answer
  | .getSPUrlByBucket => .ok (.str "https://sp")
  | .getObjectMeta _ _ => .ok [("statusCode", .number 404)]
  | .createObject _ _ _ => .ok ⟨false⟩
  | .loadSecret => .error (.foreign unavailable)
  | .headObject _ => .error unavailable
  | .simulate => .error unavailable
  | .broadcast _ => .error unavailable
  | .headBucket => .error unavailable
  | .getGlobalVirtualGroupFamily _ => .error unavailable
  | .getStorageProviders => .error unavailable
  | .getBucketMeta _ => .error unavailable
  | .createBucket _ => .error unavailable
  | .markCanaryBucket _ => ()

instance : DecidablePred IsBroadcast := fun op => by
  unfold IsBroadcast
  split <;> infer_instance

def thrownUnknown {α : Type} : Except Thrown α → Bool
  | .error (.provider failure) => failure = ⟨.createUnknown, "Greenfield create outcome requires reconciliation", false⟩
  | _ => false

theorem thrownUnknown_eq {α : Type} {result : Except Thrown α} (thrown : thrownUnknown result = true) :
    result = .error createUnknown := by
  rcases result with (failure | foreign) | value
  · rw [of_decide_eq_true (p := failure = _) thrown]
    rfl
  · cases thrown
  · cases thrown

def unknownStatus : Except Thrown GreenfieldBucketEnsureReceipt → Bool
  | .ok receipt => receipt.status = .unknown
  | _ => false

/-- An object and a bucket are unknown after runs without a broadcast: the secret could not be loaded, and the bucket could
not be looked at. -/
theorem creates_classified_unsent :
    (∃ log, Follows (samplePublisher.createObject sampleInput).run log (.done (.error createUnknown)) ∧
      ∀ entry ∈ log, ¬IsBroadcast entry.op) ∧
    ∃ log receipt, Follows (samplePublisher.ensureCanaryBucket false).run log (.done (.ok receipt)) ∧
      receipt.status = .unknown ∧ ∀ entry ∈ log, ¬IsBroadcast entry.op := by
  constructor
  · have follows := Follows.transcript sampleAnswers (samplePublisher.createObject sampleInput).run
    have unknown : thrownUnknown (Program.transcript sampleAnswers (samplePublisher.createObject sampleInput).run).2 =
      true := by
      decide +kernel
    rw [thrownUnknown_eq unknown] at follows
    exact ⟨_, follows, by decide +kernel⟩
  · have follows := Follows.transcript sampleAnswers (samplePublisher.ensureCanaryBucket false).run
    have unknown : unknownStatus (Program.transcript sampleAnswers (samplePublisher.ensureCanaryBucket false).run).2 =
      true := by
      decide +kernel
    cases ended : (Program.transcript sampleAnswers (samplePublisher.ensureCanaryBucket false).run).2 with
    | error error =>
      rw [ended] at unknown
      cases unknown
    | ok receipt =>
      rw [ended] at follows unknown
      exact ⟨_, receipt, follows, of_decide_eq_true unknown, by decide +kernel⟩

theorem creates_classified_sample :
    CreateEnds samplePublisher sampleInput (Program.transcript sampleAnswers (samplePublisher.createObject sampleInput).run).2
      (Program.transcript sampleAnswers (samplePublisher.createObject sampleInput).run).1 :=
  (creates_classified samplePublisher sampleInput false).2.1 _ _ (Follows.transcript sampleAnswers _)

end

end Bnbera.Publication.Sdk
