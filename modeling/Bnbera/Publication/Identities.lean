import Bnbera.Domain
import Bnbera.Delimited
import Bnbera.Publication.Running
import Bnbera.Validation

/-! The names of artifacts and the ids of evidence objects, and which of them may be the same. -/

namespace Bnbera.Publication

def artifactTypes : List String :=
  ["agent_profile", "capabilities", "authority", "run_bundle", "deliverable", "benchmark_comparison", "submission_index"]

def isIdentifierChar (c : Char) : Bool := isAlphanumeric c || c == '.' || c == '_' || c == ':' || c == '-'

/-- `/^[A-Za-z0-9._:-]{1,160}$/` -/
def isSafeId (text : String) : Bool :=
  1 ≤ text.toList.length && text.toList.length ≤ 160 && text.toList.all isIdentifierChar

structure CanonicalArtifact.Publishable (artifact : CanonicalArtifact) : Prop where
  artifactType : artifact.artifactType ∈ artifactTypes
  artifactId : isSafeId artifact.artifactId = true
  version : 0 < artifact.version

structure EvidenceObjectBinding where
  agentId : Option String
  agentVersionId : Option String
  runId : Option String
  jobId : Option String
  resourceId : String
deriving DecidableEq

def defaultEvidenceObjectBinding (record : PublicationAttemptRecord) : EvidenceObjectBinding where
  agentId := none
  agentVersionId := none
  runId := none
  jobId := none
  resourceId := record.artifactId

def bindingComponents (version : Nat) (binding : EvidenceObjectBinding) : List String :=
  [toString version, binding.agentId.getD "", binding.agentVersionId.getD "", binding.runId.getD "",
    binding.jobId.getD "", binding.resourceId]

def evidenceObjectSeed (record : PublicationAttemptRecord) (binding : EvidenceObjectBinding) : String :=
  ":".intercalate ("bnbera.evidence-object" :: record.artifactType :: record.artifactId ::
    bindingComponents record.artifactVersion binding)

def deterministicEvidenceObjectIdForBinding [ByteDigests] (record : PublicationAttemptRecord)
    (binding : EvidenceObjectBinding) : String :=
  deterministicUuid (evidenceObjectSeed record binding)

/-! ### The bindings of the artifact builders -/

/-- What `field` finds in a frozen row: nothing, a text, or another value. -/
inductive Column
  | absent
  | text (value : String)
  | other

/-- `value ?? fallback` -/
def Column.orElse (value fallback : Column) : Column :=
  match value with
  | absent => fallback
  | value => value

def requiredString (value : Column) (name : String) : Except String String :=
  match value with
  | .text text => if trim text = "" then .error (name ++ " is required in frozen persisted rows") else .ok (trim text)
  | _ => .error (name ++ " is required in frozen persisted rows")

def safeId (value : Column) (name : String) : Except String String := do
  let result ← requiredString value name
  if isSafeId result then .ok result else .error (name ++ " is not a canonical artifact identifier")

def internalUuid (value : Column) (name : String) : Except String String := do
  let result ← requiredString value name
  if isVersionedUuid result then .ok (lower result) else .error (name ++ " must be an internal UUID")

/-- `positiveInteger`, of the integer that `Number` makes of the value. -/
def positiveInteger (value : Option Int) (name : String) : Except String Nat :=
  match value with
  | some value =>
    if 0 < value ∧ value ≤ maxSafeInteger then .ok value.toNat else .error (name ++ " must be a positive integer")
  | none => .error (name ++ " must be a positive integer")

def assertMatchingUuid (value : Column) (expected name : String) : Except String Unit := do
  let actual ← internalUuid value name
  refuseIf (actual ≠ expected) (name ++ " does not match its owning persisted row")

structure GreenfieldArtifactBinding where
  artifactType : String
  artifactId : String
  artifactVersion : Nat
  object : EvidenceObjectBinding
deriving DecidableEq

/-- The columns of the rows of an agent's profile that its binding is made from. -/
structure FrozenAgentProfileRows where
  identityId : Column
  agentId : Column
  agentIdentityId : Column
  versionId : Column
  versionAgentId : Column
  artifactId : Column
  agentArtifactId : Column
  versionNumber : Option (Option Int)
  version : Option Int
  /-- The agent id of the on-chain identity that the rows share, or why they are refused. -/
  identity : Except String String

def profileContext (input : FrozenAgentProfileRows) : Except String GreenfieldArtifactBinding := do
  let identity ← input.identity
  let identityRowId ← internalUuid input.identityId "identity id"
  let agentId ← internalUuid input.agentId "agent id"
  let agentIdentityId ← internalUuid input.agentIdentityId "agent identity id"
  refuseIf (agentIdentityId ≠ identityRowId) "agent does not own the persisted identity row"
  let versionId ← internalUuid input.versionId "agent version id"
  let versionAgentId ← internalUuid input.versionAgentId "agent version owner id"
  refuseIf (versionAgentId ≠ agentId) "agent version is not owned by the persisted agent"
  let artifactId ← safeId ((input.artifactId.orElse input.agentArtifactId).orElse (.text ("agent-" ++ identity))) "artifactId"
  let artifactVersion ← positiveInteger (input.versionNumber.getD input.version) "artifact version"
  let persistedVersion ← positiveInteger input.version "persisted agent version"
  refuseIf (persistedVersion ≠ artifactVersion) "artifact version does not match persisted agent version"
  return {
    artifactType := "agent_profile"
    artifactId
    artifactVersion
    object := ⟨some agentId, some versionId, none, none, versionId⟩ }

structure FrozenRunBundleRows where
  identityId : Column
  runAgentId : Column
  agentId : Column
  agentIdentityId : Column
  versionId : Column
  versionAgentId : Column
  runId : Column
  runJobId : Column
  /-- The job row, when there is one: its id and the provider's agent, which may be absent. -/
  job : Option (Column × Column)
  version : Option Int
  suppliedRunVersion : Option (Option Int)
  versionNumber : Option (Option Int)
  artifactId : Column
  runArtifactId : Column
  /-- What the checks of the columns that are no part of the binding say. -/
  settled : Except String Unit

def assertJob (job : Option (Column × Column)) (jobId agentId : String) : Except String Unit :=
  match job with
  | none => .ok ()
  | some (id, .absent) => assertMatchingUuid id jobId "job id"
  | some (id, providerAgentId) => do
    assertMatchingUuid id jobId "job id"
    assertMatchingUuid providerAgentId agentId "job provider agent id"

def assertRunVersion (supplied : Option (Option Int)) (persistedVersion : Nat) : Except String Unit :=
  match supplied with
  | none => .ok ()
  | some supplied => do
    let runVersion ← positiveInteger supplied "run agent version"
    refuseIf (runVersion ≠ persistedVersion) "run agent version does not match the persisted agent version"

def runBundleContext (input : FrozenRunBundleRows) : Except String GreenfieldArtifactBinding := do
  let identityRowId ← internalUuid input.identityId "identity id"
  let agentId ← internalUuid input.runAgentId "run agent id"
  assertMatchingUuid input.agentId agentId "agent id"
  assertMatchingUuid input.agentIdentityId identityRowId "agent identity id"
  let versionId ← internalUuid input.versionId "agent version id"
  assertMatchingUuid input.versionAgentId agentId "agent version owner id"
  let runId ← internalUuid input.runId "run id"
  let jobId ← internalUuid input.runJobId "run job id"
  assertJob input.job jobId agentId
  let persistedVersion ← positiveInteger input.version "persisted agent version"
  assertRunVersion input.suppliedRunVersion persistedVersion
  let artifactVersion ← positiveInteger (input.versionNumber.getD (some persistedVersion)) "artifact version"
  refuseIf (artifactVersion ≠ persistedVersion) "artifact version does not match persisted agent version"
  let artifactId ← safeId ((input.artifactId.orElse input.runArtifactId).orElse (.text ("run-" ++ runId))) "artifactId"
  input.settled
  return {
    artifactType := "run_bundle"
    artifactId
    artifactVersion
    object := ⟨some agentId, some versionId, some runId, some jobId, jobId⟩ }

structure GreenfieldArtifactBinding.Labels (binding : GreenfieldArtifactBinding) (record : PublicationAttemptRecord) :
    Prop where
  artifactType : record.artifactType = binding.artifactType
  artifactId : record.artifactId = binding.artifactId
  artifactVersion : record.artifactVersion = binding.artifactVersion

inductive Produced (record : PublicationAttemptRecord) : EvidenceObjectBinding → Prop
  | byDefault (type : record.artifactType ∈ artifactTypes) (id : isSafeId record.artifactId = true) :
      Produced record (defaultEvidenceObjectBinding record)
  | ofProfile {rows : FrozenAgentProfileRows} {binding : GreenfieldArtifactBinding}
      (built : profileContext rows = .ok binding) (labels : binding.Labels record) : Produced record binding.object
  | ofRunBundle {rows : FrozenRunBundleRows} {binding : GreenfieldArtifactBinding}
      (built : runBundleContext rows = .ok binding) (labels : binding.Labels record) : Produced record binding.object

structure SameEvidence (record record' : PublicationAttemptRecord) (binding binding' : EvidenceObjectBinding) : Prop where
  artifactType : record.artifactType = record'.artifactType
  artifactId : record.artifactId = record'.artifactId
  artifactVersion : record.artifactVersion = record'.artifactVersion
  binding : binding = binding'

/-! ### Object names -/

def encodedChar (c : Char) : List Char := if c = ':' then ['%', '3', 'A'] else [c]

theorem encodedChar_ne_nil (c : Char) : encodedChar c ≠ [] := by
  unfold encodedChar
  split <;> exact List.cons_ne_nil _ _

theorem encodeURIComponent_toList {text : String} (safe : text.toList.all isIdentifierChar = true) :
    (encodeURIComponent text).toList = text.toList.flatMap encodedChar := by
  unfold encodeURIComponent
  rw [String.toList_ofList]
  refine List.flatMap_congr fun c member => ?_
  have admitted := List.all_eq_true.mp safe c member
  by_cases colon : c = ':'
  · subst colon
    decide +kernel
  · rw [encodedChar, if_neg colon, if_pos]
    simp only [isIdentifierChar, Bool.or_eq_true, beq_iff_eq] at admitted
    rcases admitted with (((admitted | rfl) | rfl) | admitted) | rfl
    · rw [admitted, Bool.true_or]
    · decide
    · decide
    · exact absurd admitted colon
    · decide

/-- An encoded colon begins with a mark that no identifier has. -/
theorem encoded_inj {a b : List Char} (safe : a.all isIdentifierChar = true) (safe' : b.all isIdentifierChar = true)
    (same : a.flatMap encodedChar = b.flatMap encodedChar) : a = b := by
  have percent : ∀ c : Char, isIdentifierChar c = true → c ≠ '%' := by
    rintro c admitted rfl
    exact absurd admitted (by decide)
  induction a generalizing b with
  | nil =>
    cases b with
    | nil => rfl
    | cons d b => exact absurd (List.append_eq_nil_iff.mp same.symm).1 (encodedChar_ne_nil d)
  | cons c a ih =>
    simp only [List.all_cons, Bool.and_eq_true] at safe
    cases b with
    | nil => exact absurd (List.append_eq_nil_iff.mp same).1 (encodedChar_ne_nil c)
    | cons d b =>
      simp only [List.all_cons, Bool.and_eq_true] at safe'
      simp only [List.flatMap_cons, encodedChar] at same
      by_cases colon : c = ':' <;> by_cases colon' : d = ':'
      · rw [if_pos colon, if_pos colon', List.append_cancel_left_eq] at same
        rw [colon, colon', ih safe.2 safe'.2 same]
      · rw [if_pos colon, if_neg colon'] at same
        exact absurd (List.cons.inj same).1.symm (percent d safe'.1)
      · rw [if_neg colon, if_pos colon'] at same
        exact absurd (List.cons.inj same).1 (percent c safe.1)
      · rw [if_neg colon, if_neg colon'] at same
        obtain ⟨rfl, rest⟩ := List.cons.inj same
        rw [ih safe.2 safe'.2 rest]

theorem encodeURIComponent_inj {a b : String} (safe : isSafeId a = true) (safe' : isSafeId b = true)
    (same : encodeURIComponent a = encodeURIComponent b) : a = b := by
  simp only [isSafeId, Bool.and_eq_true] at safe safe'
  refine String.toList_inj.mp (encoded_inj safe.2 safe'.2 ?_)
  rw [← encodeURIComponent_toList safe.2, ← encodeURIComponent_toList safe'.2, same]

theorem pathSegment_eq_ok {value encoded : String} (segment : pathSegment value = .ok encoded) :
    encoded = encodeURIComponent value := by
  simp only [pathSegment] at segment
  split at segment
  · cases segment
  · exact (Except.ok.inj segment).symm

def objectNamePieces (artifact : CanonicalArtifact) : List String :=
  ["evidence", encodeURIComponent artifact.environment.text, artifact.artifactType,
    encodeURIComponent artifact.artifactId, "versions", toString artifact.version, artifact.artifactType ++ ".json"]

theorem deterministicObjectName_eq_ok {artifact : CanonicalArtifact} {name : String}
    (named : deterministicObjectName artifact = .ok name) : name = "/".intercalate (objectNamePieces artifact) := by
  obtain ⟨environment, first, rest⟩ := bind_eq_ok.mp named
  obtain ⟨artifactId, second, made⟩ := bind_eq_ok.mp rest
  rw [pathSegment_eq_ok first, pathSegment_eq_ok second] at made
  rw [← Except.ok.inj made]
  simp only [objectNamePieces, String.intercalate_cons_cons, String.intercalate_singleton, String.append_assoc]
  rfl

theorem slash_notMem_encoded {text : String} (safe : text.toList.all isIdentifierChar = true) :
    '/' ∉ (encodeURIComponent text).toList := by
  rw [encodeURIComponent_toList safe, List.mem_flatMap]
  rintro ⟨c, member, inside⟩
  have admitted := List.all_eq_true.mp safe c member
  unfold encodedChar at inside
  split at inside
  · exact absurd inside (by decide)
  · rw [← List.mem_singleton.mp inside] at admitted
    exact absurd admitted (by decide)

theorem notMem_toString {c : Char} (other : c.isDigit = false) (n : Nat) : c ∉ (toString n).toList := by
  intro member
  rw [Nat.toString_eq_repr, Nat.repr_eq_ofList_toDigits, String.toList_ofList] at member
  exact absurd (Nat.isDigit_of_mem_toDigits (by decide) (by decide) member) (by simp [other])

theorem toString_inj {m n : Nat} (same : toString m = toString n) : m = n := by
  have values := congrArg decimalValue same
  rwa [Nat.toString_eq_repr, Nat.toString_eq_repr, ← String.ofList_toList (s := m.repr), ← String.ofList_toList (s := n.repr),
    decimalValue_repr, decimalValue_repr] at values

theorem slash_notMem_objectNamePieces {artifact : CanonicalArtifact} (publishable : artifact.Publishable) :
    ∀ piece ∈ (objectNamePieces artifact).map String.toList, '/' ∉ piece := by
  have id := publishable.artifactId
  simp only [isSafeId, Bool.and_eq_true] at id
  have type : '/' ∉ artifact.artifactType.toList := by
    have listed := publishable.artifactType
    simp only [artifactTypes, List.mem_cons, List.not_mem_nil, or_false] at listed
    rcases listed with same | same | same | same | same | same | same <;> rw [same] <;> decide
  have environment : '/' ∉ (encodeURIComponent artifact.environment.text).toList := by
    cases artifact.environment <;> exact slash_notMem_encoded (by decide)
  intro piece member
  simp only [objectNamePieces, List.map_cons, List.map_nil, List.mem_cons, List.not_mem_nil, or_false] at member
  rcases member with rfl | rfl | rfl | rfl | rfl | rfl | rfl
  · decide
  · exact environment
  · exact type
  · exact slash_notMem_encoded id.2
  · decide
  · exact notMem_toString (by decide) _
  · rw [String.toList_append, List.mem_append, not_or]
    exact ⟨type, by decide⟩

theorem deterministicObjectName_determines {a b : CanonicalArtifact} {name : String} (publishable : a.Publishable)
    (publishable' : b.Publishable) (named : deterministicObjectName a = .ok name)
    (named' : deterministicObjectName b = .ok name) :
    a.environment = b.environment ∧ a.artifactType = b.artifactType ∧ a.artifactId = b.artifactId ∧
      a.version = b.version := by
  have same := (deterministicObjectName_eq_ok named).symm.trans (deterministicObjectName_eq_ok named')
  have texts := congrArg String.toList same
  rw [String.toList_intercalate, String.toList_intercalate] at texts
  have pieces : (objectNamePieces a).map String.toList = (objectNamePieces b).map String.toList := by
    rw [← List.splitOn_intercalate '/' (slash_notMem_objectNamePieces publishable) (by simp [objectNamePieces]),
      ← List.splitOn_intercalate '/' (slash_notMem_objectNamePieces publishable') (by simp [objectNamePieces])]
    exact congrArg _ texts
  have equal := (List.map_inj_right fun _ _ => String.toList_inj.mp).mp pieces
  simp only [objectNamePieces, List.cons.injEq, true_and, and_true] at equal
  obtain ⟨environment, type, id, version, _⟩ := equal
  refine ⟨?_, type, encodeURIComponent_inj publishable.artifactId publishable'.artifactId id, toString_inj version⟩
  generalize a.environment = first at environment
  generalize b.environment = second at environment
  cases first <;> cases second <;> first
    | rfl
    | exact absurd environment (by decide +kernel)

/-! ### Evidence object ids -/

def segments (text : String) : List (List Char) := text.toList.splitOn ':'

theorem segments_inj {a b : String} (same : segments a = segments b) : a = b := by
  have whole : [':'].intercalate (segments a) = [':'].intercalate (segments b) := congrArg _ same
  rw [segments, segments, List.intercalate_splitOn, List.intercalate_splitOn] at whole
  exact String.toList_inj.mp whole

theorem segments_eq_singleton {text : String} (free : ':' ∉ text.toList) : segments text = [text.toList] :=
  List.splitOn_eq_singleton free

def bindingSegments (version : Nat) (binding : EvidenceObjectBinding) : List (List Char) :=
  (bindingComponents version binding).flatMap segments

theorem segments_evidenceObjectSeed (record : PublicationAttemptRecord) (binding : EvidenceObjectBinding) :
    segments (evidenceObjectSeed record binding) = segments "bnbera.evidence-object" ++ segments record.artifactType ++
      segments record.artifactId ++ bindingSegments record.artifactVersion binding := by
  unfold segments evidenceObjectSeed
  rw [String.toList_intercalate]
  simp only [List.map_cons]
  rw [show ":".toList = [':'] from rfl, Delimited.splitOn_intercalate_cons]
  simp only [List.flatMap_cons, List.flatMap_map, List.append_assoc]
  rfl

theorem evidenceObjectSeed_eq_iff {record record' : PublicationAttemptRecord} {binding binding' : EvidenceObjectBinding}
    (free : ':' ∉ record.artifactType.toList) (free' : ':' ∉ record'.artifactType.toList) :
    evidenceObjectSeed record binding = evidenceObjectSeed record' binding' ↔
      record.artifactType = record'.artifactType ∧
        segments record.artifactId ++ bindingSegments record.artifactVersion binding =
          segments record'.artifactId ++ bindingSegments record'.artifactVersion binding' := by
  constructor
  · intro same
    have pieces := congrArg segments same
    rw [segments_evidenceObjectSeed, segments_evidenceObjectSeed, segments_eq_singleton free, segments_eq_singleton free',
      List.append_assoc, List.append_assoc, List.append_assoc, List.append_assoc, List.append_cancel_left_eq] at pieces
    obtain ⟨type, rest⟩ := List.cons.inj pieces
    exact ⟨String.toList_inj.mp type, rest⟩
  · rintro ⟨type, rest⟩
    refine segments_inj ?_
    rw [segments_evidenceObjectSeed, segments_evidenceObjectSeed, List.append_assoc, rest, type, List.append_assoc,
      List.append_assoc, List.append_assoc]

theorem internalUuid_eq_ok {value : Column} {name id : String} (read : internalUuid value name = .ok id) :
    ':' ∉ id.toList ∧ id.toList ≠ [] := by
  obtain ⟨text, _, checked⟩ := bind_eq_ok.mp read
  split at checked
  · rename_i accepted
    rw [← Except.ok.inj checked, lower_toList]
    have uuid : isUuid text = true := by
      simp only [isVersionedUuid, Bool.and_eq_true] at accepted
      exact accepted.1.1
    refine ⟨?_, ?_⟩
    · rw [List.mem_map]
      rintro ⟨c, member, small⟩
      rcases mem_isUuid uuid member with hex | rfl
      · exact absurd (small ▸ isHexDigit_toLower hex) (by decide)
      · exact absurd small (by decide)
    · intro empty
      simp only [isUuid, Bool.and_eq_true, beq_iff_eq, List.map_eq_nil_iff.mp empty] at uuid
      exact absurd uuid.1.1.1.1.1.1 (by decide)
  · cases checked

def IsOwner (id : String) : Prop := ':' ∉ id.toList ∧ id.toList ≠ []

/-- A binding of the builders: there is an agent, and every owner that is named is an id. -/
structure EvidenceObjectBinding.Owned (binding : EvidenceObjectBinding) : Prop where
  agent : binding.agentId ≠ none
  owners : ∀ owner ∈ [binding.agentId, binding.agentVersionId, binding.runId, binding.jobId], ∀ id ∈ owner, IsOwner id
  resource : ':' ∉ binding.resourceId.toList

theorem profileContext_eq_ok {rows : FrozenAgentProfileRows} {binding : GreenfieldArtifactBinding}
    (built : profileContext rows = .ok binding) : binding.artifactType = "agent_profile" ∧ binding.object.Owned := by
  simp only [profileContext, bind_eq_ok] at built
  obtain ⟨_, _, _, _, agentId, agent, _, _, _, _, versionId, version, _, _, _, _, _, _, _, _, _, _, _, _, made⟩ :=
    built
  cases made
  refine ⟨rfl, Option.some_ne_none _, ?_, (internalUuid_eq_ok version).1⟩
  intro owner member id named
  simp only [List.mem_cons, List.not_mem_nil, or_false] at member
  rcases member with rfl | rfl | rfl | rfl <;> cases named
  · exact internalUuid_eq_ok agent
  · exact internalUuid_eq_ok version

theorem runBundleContext_eq_ok {rows : FrozenRunBundleRows} {binding : GreenfieldArtifactBinding}
    (built : runBundleContext rows = .ok binding) : binding.artifactType = "run_bundle" ∧ binding.object.Owned := by
  simp only [runBundleContext, bind_eq_ok] at built
  obtain ⟨_, _, agentId, agent, _, _, _, _, versionId, version, _, _, runId, run, jobId, job, _, _, _, _, _, _, _, _, _, _,
    _, _, _, _, made⟩ := built
  cases made
  refine ⟨rfl, Option.some_ne_none _, ?_, (internalUuid_eq_ok job).1⟩
  intro owner member id named
  simp only [List.mem_cons, List.not_mem_nil, or_false] at member
  rcases member with rfl | rfl | rfl | rfl <;> cases named
  · exact internalUuid_eq_ok agent
  · exact internalUuid_eq_ok version
  · exact internalUuid_eq_ok run
  · exact internalUuid_eq_ok job

theorem Produced.cases {record : PublicationAttemptRecord} {binding : EvidenceObjectBinding}
    (produced : Produced record binding) :
    ':' ∉ record.artifactType.toList ∧ (binding = defaultEvidenceObjectBinding record ∨ binding.Owned) := by
  cases produced with
  | byDefault type id =>
    refine ⟨?_, Or.inl rfl⟩
    simp only [artifactTypes, List.mem_cons, List.not_mem_nil, or_false] at type
    rcases type with same | same | same | same | same | same | same <;> rw [same] <;> decide
  | ofProfile built labels =>
    obtain ⟨type, owned⟩ := profileContext_eq_ok built
    exact ⟨by rw [labels.artifactType, type]; decide, Or.inr owned⟩
  | ofRunBundle built labels =>
    obtain ⟨type, owned⟩ := runBundleContext_eq_ok built
    exact ⟨by rw [labels.artifactType, type]; decide, Or.inr owned⟩

theorem EvidenceObjectBinding.Owned.segments {binding : EvidenceObjectBinding} (owned : binding.Owned) (version : Nat) :
    bindingSegments version binding = (bindingComponents version binding).map String.toList := by
  have free : ∀ component ∈ bindingComponents version binding, ':' ∉ component.toList := by
    have owner : ∀ owner ∈ [binding.agentId, binding.agentVersionId, binding.runId, binding.jobId],
        ':' ∉ (owner.getD "").toList := by
      intro owner member
      cases named : owner with
      | none => decide
      | some id => exact (owned.owners owner member id named).1
    intro component member
    simp only [bindingComponents, List.mem_cons, List.not_mem_nil, or_false] at member
    rcases member with rfl | rfl | rfl | rfl | rfl | rfl
    · exact notMem_toString (by decide) _
    · exact owner _ (by simp)
    · exact owner _ (by simp)
    · exact owner _ (by simp)
    · exact owner _ (by simp)
    · exact owned.resource
  unfold bindingSegments
  rw [← List.flatMap_singleton' ((bindingComponents version binding).map String.toList), List.flatMap_map]
  exact List.flatMap_congr fun component member => segments_eq_singleton (free component member)

theorem bindingSegments_default (record : PublicationAttemptRecord) :
    bindingSegments record.artifactVersion (defaultEvidenceObjectBinding record) =
      [(toString record.artifactVersion).toList, [], [], [], []] ++ segments record.artifactId := by
  unfold bindingSegments bindingComponents
  simp only [List.flatMap_cons, List.flatMap_nil, List.append_nil]
  rw [segments_eq_singleton (notMem_toString (by decide) _)]
  rfl

theorem owner_inj {owner owner' : Option String} (named : ∀ id ∈ owner, IsOwner id) (named' : ∀ id ∈ owner', IsOwner id)
    (same : (owner.getD "").toList = (owner'.getD "").toList) : owner = owner' := by
  cases owner with
  | none =>
    cases owner' with
    | none => rfl
    | some id => exact absurd same.symm (named' id rfl).2
  | some id =>
    cases owner' with
    | none => exact absurd same (named id rfl).2
    | some id' => exact congrArg some (String.toList_inj.mp same)

section
variable {record record' : PublicationAttemptRecord} {binding binding' : EvidenceObjectBinding}
  (free : ':' ∉ record.artifactType.toList) (free' : ':' ∉ record'.artifactType.toList)
include free free'

theorem sameEvidence_of_owned (owned : binding.Owned) (owned' : binding'.Owned)
    (same : evidenceObjectSeed record binding = evidenceObjectSeed record' binding') :
    SameEvidence record record' binding binding' := by
  obtain ⟨type, pieces⟩ := (evidenceObjectSeed_eq_iff free free').mp same
  rw [owned.segments, owned'.segments] at pieces
  obtain ⟨id, components⟩ := List.append_inj' pieces (by simp [bindingComponents])
  simp only [bindingComponents, List.map_cons, List.map_nil, List.cons.injEq, and_true] at components
  obtain ⟨version, agent, agentVersion, run, job, resource⟩ := components
  refine ⟨type, segments_inj id, toString_inj (String.toList_inj.mp version), ?_⟩
  obtain ⟨agentId, agentVersionId, runId, jobId, resourceId⟩ := binding
  obtain ⟨agentId', agentVersionId', runId', jobId', resourceId'⟩ := binding'
  obtain rfl := owner_inj (owned.owners agentId (by simp)) (owned'.owners agentId' (by simp)) agent
  obtain rfl := owner_inj (owned.owners agentVersionId (by simp)) (owned'.owners agentVersionId' (by simp)) agentVersion
  obtain rfl := owner_inj (owned.owners runId (by simp)) (owned'.owners runId' (by simp)) run
  obtain rfl := owner_inj (owned.owners jobId (by simp)) (owned'.owners jobId' (by simp)) job
  obtain rfl : resourceId = resourceId' := String.toList_inj.mp resource
  rfl

theorem sameEvidence_of_default
    (same : evidenceObjectSeed record (defaultEvidenceObjectBinding record) =
      evidenceObjectSeed record' (defaultEvidenceObjectBinding record')) :
    SameEvidence record record' (defaultEvidenceObjectBinding record) (defaultEvidenceObjectBinding record') := by
  obtain ⟨type, pieces⟩ := (evidenceObjectSeed_eq_iff free free').mp same
  rw [bindingSegments_default, bindingSegments_default] at pieces
  have lengths := congrArg List.length pieces
  simp only [List.length_append, List.length_cons, List.length_nil] at lengths
  obtain ⟨id, rest⟩ := List.append_inj pieces (by omega)
  have version := (List.cons.inj rest).1
  refine ⟨type, segments_inj id, toString_inj (String.toList_inj.mp version), ?_⟩
  rw [defaultEvidenceObjectBinding, defaultEvidenceObjectBinding, segments_inj id]

end

/-- The default record's artifact id ends in the version and the components of the other binding, which has an agent,
and the other artifact id goes on from it with its version, four empty pieces and the pieces before those components. -/
structure Shadows (record record' : PublicationAttemptRecord) (binding binding' : EvidenceObjectBinding) : Prop where
  default : binding = defaultEvidenceObjectBinding record
  owner : binding'.agentId ≠ none
  artifactType : record.artifactType = record'.artifactType
  pieces : ∃ before,
    segments record.artifactId = before ++ (bindingComponents record'.artifactVersion binding').map String.toList ∧
      segments record'.artifactId =
        segments record.artifactId ++ [(toString record.artifactVersion).toList, [], [], [], []] ++ before

section
variable {record record' : PublicationAttemptRecord} {binding binding' : EvidenceObjectBinding}

theorem shadows_of_seed (free : ':' ∉ record.artifactType.toList) (free' : ':' ∉ record'.artifactType.toList)
    (owned : binding'.Owned)
    (same : evidenceObjectSeed record (defaultEvidenceObjectBinding record) = evidenceObjectSeed record' binding') :
    Shadows record record' (defaultEvidenceObjectBinding record) binding' := by
  obtain ⟨type, pieces⟩ := (evidenceObjectSeed_eq_iff free free').mp same
  rw [bindingSegments_default, owned.segments, ← List.append_assoc] at pieces
  refine ⟨rfl, owned.agent, type, Delimited.repeated_eq_append ?_ ?_ pieces⟩
  · intro empty
    have digits := congrArg String.ofList empty
    rw [String.ofList_toList, Nat.toString_eq_repr] at digits
    exact absurd digits (Nat.repr_ne_empty)
  · cases agent : binding'.agentId with
    | none => exact absurd agent owned.agent
    | some id => exact (owned.owners _ (by simp) id agent).2

theorem Shadows.seed (shadows : Shadows record record' binding binding') (produced : Produced record binding)
    (produced' : Produced record' binding') : evidenceObjectSeed record binding = evidenceObjectSeed record' binding' := by
  obtain ⟨rfl, owner, type, before, ending, whole⟩ := shadows
  have owned : binding'.Owned := by
    rcases produced'.cases.2 with rfl | owned
    · exact absurd rfl owner
    · exact owned
  refine (evidenceObjectSeed_eq_iff produced.cases.1 produced'.cases.1).mpr ⟨type, ?_⟩
  rw [bindingSegments_default, owned.segments, whole, List.append_assoc, List.append_assoc, ← ending]

theorem Shadows.artifactId_ne (shadows : Shadows record record' binding binding') :
    record.artifactId ≠ record'.artifactId := by
  obtain ⟨_, _, _, before, _, whole⟩ := shadows
  intro same
  have lengths := congrArg List.length whole
  rw [same] at lengths
  simp only [List.length_append, List.length_cons, List.length_nil] at lengths
  omega

end

/-- Evidence identities: an object name determines what it names, and two evidence objects whose seeds the digest tells
apart share an id only if they agree in everything, except where one artifact id shadows the other object. -/
theorem evidence_identities [ByteDigests] :
    (∀ (a b : CanonicalArtifact) (name : String), a.Publishable → b.Publishable →
      deterministicObjectName a = .ok name → deterministicObjectName b = .ok name →
        a.environment = b.environment ∧ a.artifactType = b.artifactType ∧ a.artifactId = b.artifactId ∧
          a.version = b.version) ∧
    ∀ (record record' : PublicationAttemptRecord) (binding binding' : EvidenceObjectBinding),
      Produced record binding → Produced record' binding' →
      (deterministicUuid (evidenceObjectSeed record binding) = deterministicUuid (evidenceObjectSeed record' binding') →
        evidenceObjectSeed record binding = evidenceObjectSeed record' binding') →
      ((deterministicEvidenceObjectIdForBinding record binding =
          deterministicEvidenceObjectIdForBinding record' binding' → SameEvidence record record' binding binding') ↔
        ¬Shadows record record' binding binding' ∧ ¬Shadows record' record binding' binding) := by
  refine ⟨fun a b name publishable publishable' => deterministicObjectName_determines publishable publishable', ?_⟩
  intro record record' binding binding' produced produced' distinct
  obtain ⟨free, kind⟩ := produced.cases
  obtain ⟨free', kind'⟩ := produced'.cases
  constructor
  · intro never
    constructor
    · intro shadows
      exact shadows.artifactId_ne (never (congrArg deterministicUuid (shadows.seed produced produced'))).artifactId
    · intro shadows
      exact shadows.artifactId_ne
        (never (congrArg deterministicUuid (shadows.seed produced' produced).symm)).artifactId.symm
  · rintro ⟨one, other⟩ same
    have seeds := distinct same
    rcases kind with rfl | owned
    · rcases kind' with rfl | owned'
      · exact sameEvidence_of_default free free' seeds
      · exact absurd (shadows_of_seed free free' owned' seeds) one
    · rcases kind' with rfl | owned'
      · exact absurd (shadows_of_seed free' free owned seeds.symm) other
      · exact sameEvidence_of_owned free free' owned owned' seeds

/-! ### Two objects under one id -/

def sampleAgentUuid : String := "11111111-1111-4111-8111-111111111111"
def sampleVersionUuid : String := "22222222-2222-4222-8222-222222222222"
def sampleIdentityUuid : String := "33333333-3333-4333-8333-333333333333"

def shadowingId : String := ":".intercalate ["1", sampleAgentUuid, sampleVersionUuid, "", "", sampleVersionUuid]

def shadowedId : String := shadowingId ++ ":2::::"

def sampleProfileRows (artifactId : String) : FrozenAgentProfileRows where
  identityId := .text sampleIdentityUuid
  agentId := .text sampleAgentUuid
  agentIdentityId := .text sampleIdentityUuid
  versionId := .text sampleVersionUuid
  versionAgentId := .text sampleAgentUuid
  artifactId := .text artifactId
  agentArtifactId := .absent
  versionNumber := none
  version := some 1
  identity := .ok "1"

def sampleProfileBinding : EvidenceObjectBinding where
  agentId := some sampleAgentUuid
  agentVersionId := some sampleVersionUuid
  runId := none
  jobId := none
  resourceId := sampleVersionUuid

def sampleProfileRecord (artifactId : String) (artifactVersion : Nat) : PublicationAttemptRecord :=
  { sampleAttempt .greenfield .pending with artifactType := "agent_profile", artifactId, artifactVersion }

theorem requiredString_text {text : String} (trimmed : trim text = text) (present : text ≠ "") (name : String) :
    requiredString (.text text) name = .ok text := by
  simp only [requiredString, trimmed, if_neg present]

theorem internalUuid_text {text : String} (trimmed : trim text = text) (present : text ≠ "")
    (versioned : isVersionedUuid text = true) (small : lower text = text) (name : String) :
    internalUuid (.text text) name = .ok text := by
  rw [internalUuid, requiredString_text trimmed present]
  show (if isVersionedUuid text then Except.ok (lower text) else _) = _
  rw [if_pos versioned, small]

theorem sampleProfile_built {artifactId : String} (trimmed : trim artifactId = artifactId) (present : artifactId ≠ "")
    (safe : isSafeId artifactId = true) :
    profileContext (sampleProfileRows artifactId) = .ok ⟨"agent_profile", artifactId, 1, sampleProfileBinding⟩ := by
  have id : safeId (.text artifactId) "artifactId" = .ok artifactId := by
    rw [safeId, requiredString_text trimmed present]
    exact if_pos safe
  have identity : ∀ name, internalUuid (.text sampleIdentityUuid) name = .ok sampleIdentityUuid :=
    internalUuid_text (by decide +kernel) (by decide) (by decide +kernel) (by decide +kernel)
  have agent : ∀ name, internalUuid (.text sampleAgentUuid) name = .ok sampleAgentUuid :=
    internalUuid_text (by decide +kernel) (by decide) (by decide +kernel) (by decide +kernel)
  have version : ∀ name, internalUuid (.text sampleVersionUuid) name = .ok sampleVersionUuid :=
    internalUuid_text (by decide +kernel) (by decide) (by decide +kernel) (by decide +kernel)
  simp only [profileContext, sampleProfileRows, identity, agent, version, Column.orElse, id]
  rfl

theorem sampleProfile_shadowed : Shadows (sampleProfileRecord shadowingId 2) (sampleProfileRecord shadowedId 1)
    (defaultEvidenceObjectBinding (sampleProfileRecord shadowingId 2)) sampleProfileBinding where
  default := rfl
  owner := Option.some_ne_none _
  artifactType := rfl
  pieces := ⟨[], by decide +kernel, by decide +kernel⟩

/-- A default record and an agent's profile that share an id under every digest. -/
theorem evidence_identities_shadowed :
    ∃ record record' binding binding', Produced record binding ∧ Produced record' binding' ∧
      (∀ digests : ByteDigests, @deterministicEvidenceObjectIdForBinding digests record binding =
        @deterministicEvidenceObjectIdForBinding digests record' binding') ∧
      ¬SameEvidence record record' binding binding' := by
  have produced : Produced (sampleProfileRecord shadowingId 2) _ :=
    .byDefault (by decide) (show isSafeId shadowingId = true by decide +kernel)
  have built : profileContext (sampleProfileRows shadowedId) = _ :=
    sampleProfile_built (by decide +kernel) (by decide +kernel) (by decide +kernel)
  have produced' : Produced (sampleProfileRecord shadowedId 1) sampleProfileBinding := .ofProfile built ⟨rfl, rfl, rfl⟩
  refine ⟨_, _, _, _, produced, produced', fun digests => ?_, fun same => ?_⟩
  · exact congrArg (@deterministicUuid digests) (sampleProfile_shadowed.seed produced produced')
  · exact sampleProfile_shadowed.artifactId_ne same.artifactId

/-- A digest that tells a last byte `1` from others. -/
@[reducible] def lastByteDigests : ByteDigests where
  sha256Hex bytes :=
    if bytes.getLast? = some 49 then sampleContentDigest
    else ⟨String.ofList (List.replicate 64 'e'), by decide +kernel, by decide +kernel⟩
  keccak256Hex _ := sampleContentDigest

theorem evidence_identities_sample :
    sampleArtifact.environment = .hackathon ∧
      @deterministicEvidenceObjectIdForBinding lastByteDigests (sampleProfileRecord "agent-1" 1)
          (defaultEvidenceObjectBinding (sampleProfileRecord "agent-1" 1)) ≠
        @deterministicEvidenceObjectIdForBinding lastByteDigests (sampleProfileRecord "agent-2" 1)
          (defaultEvidenceObjectBinding (sampleProfileRecord "agent-2" 1)) := by
  have publishable : sampleArtifact.Publishable := ⟨by decide, by decide +kernel, by decide⟩
  have named : ∃ name, deterministicObjectName sampleArtifact = .ok name := ⟨_, rfl⟩
  obtain ⟨name, named⟩ := named
  have other : ∀ {record record' : PublicationAttemptRecord}, ¬Shadows record record'
      (defaultEvidenceObjectBinding record) (defaultEvidenceObjectBinding record') := fun shadows => shadows.owner rfl
  refine ⟨((@evidence_identities lastByteDigests).1 sampleArtifact sampleArtifact name publishable publishable named
    named).1, fun same => ?_⟩
  have agree := ((@evidence_identities lastByteDigests).2 (sampleProfileRecord "agent-1" 1) (sampleProfileRecord "agent-2" 1)
    _ _ (.byDefault (by decide) (by decide +kernel)) (.byDefault (by decide) (by decide +kernel))
    (fun equal => absurd equal (by decide +kernel))).mpr ⟨other, other⟩ same
  exact absurd agree.artifactId (by decide)

end Bnbera.Publication
