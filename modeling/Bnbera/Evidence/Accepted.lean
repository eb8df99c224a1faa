import Bnbera.Evidence.Projection

/-! What is projected passes its own schema. -/

namespace Bnbera.Evidence

theorem text_eq_some {value : Value} {maximum : Nat} {found : String} (read : text value maximum = some found) :
    trim found = found ∧ 1 ≤ (utf16Units found).length ∧ (utf16Units found).length ≤ maximum := by
  unfold text at read
  split at read
  · split at read
    · rename_i plain
      cases Option.some.inj read
      simp only [isPlainText, Bool.and_eq_true, decide_eq_true_eq] at plain
      exact ⟨trim_trim _, plain.1.1, plain.1.2⟩
    · cases read
  · cases read

theorem uuid_eq_some {value : Value} {found : String} (read : uuid value = some found) : isUuid found = true := by
  unfold uuid at read
  split at read
  · split at read
    · rename_i accepted
      cases Option.some.inj read
      exact accepted
    · cases read
  · cases read

theorem digest_eq_some {value : Value} {found : String} (read : digest value = some found) : isDigest found = true := by
  unfold digest at read
  split at read
  · split at read
    · rename_i accepted
      cases Option.some.inj read
      exact isDigest_lower accepted
    · cases read
  · cases read

theorem nonNegativeInteger_eq_some {value : Value} {found : Int} (read : nonNegativeInteger value = some found) : 0 ≤ found := by
  have bounds := (Option.filter_eq_some_iff.mp read).2
  simp only [Bool.and_eq_true, decide_eq_true_eq] at bounds
  exact bounds.2

theorem positiveInteger_eq_some {value : Value} {found : Int} (read : positiveInteger value = some found) : 0 < found := by
  have positive := (Option.filter_eq_some_iff.mp read).2
  exact of_decide_eq_true positive

theorem isTransactionHash_iff {text : String} : isTransactionHash text = true ↔
    ∃ digits, text.toList = '0' :: 'x' :: digits ∧ digits.length = 64 ∧ digits.all isHexDigit = true := by
  unfold isTransactionHash
  split
  · rename_i digits same
    simp [same]
  · rename_i other
    constructor
    · intro accepted
      cases accepted
    · rintro ⟨digits, same, _⟩
      exact absurd same (other digits)

theorem isHexDigit_visible {c : Char} (hex : isHexDigit c = true) : isTrimmed c = false := by
  have code := isHexDigit_iff.mp hex
  exact isTrimmed_visible (by omega) (by omega)

/-- A transaction hash that was normalized is its own normal form. -/
theorem optionalTxHashText_lower {candidate : String} (accepted : isTransactionHash candidate = true)
    (nonzero : isZeroTransactionHash candidate = false) :
    isTransactionHash (lower candidate) = true ∧ optionalTxHashText (lower candidate) = some (some (lower candidate)) := by
  obtain ⟨digits, chars, length, hex⟩ := isTransactionHash_iff.mp accepted
  have lowered : (lower candidate).toList = '0' :: 'x' :: digits.map Char.toLower := by
    rw [lower_toList, chars]
    rfl
  have again : isTransactionHash (lower candidate) = true :=
    isTransactionHash_iff.mpr ⟨_, lowered, by rw [List.length_map, length], all_isHexDigit_lower hex⟩
  have clean : trim (lower candidate) = lower candidate := by
    refine trim_eq_self fun c member => ?_
    rw [lowered, List.mem_cons, List.mem_cons] at member
    rcases member with rfl | rfl | digit
    · rfl
    · rfl
    · exact isHexDigit_visible (List.all_eq_true.mp (all_isHexDigit_lower hex) c digit)
  have present : lower candidate ≠ "" := by
    intro empty
    rw [empty] at lowered
    cases lowered
  have zero : isZeroTransactionHash (lower candidate) = false := by
    rw [Bool.eq_false_iff] at nonzero ⊢
    intro zeros
    refine nonzero ?_
    unfold isZeroTransactionHash at zeros ⊢
    rw [lowered] at zeros
    rw [chars]
    simp only [Bool.and_eq_true, beq_iff_eq, List.length_map, List.all_eq_true, List.mem_map] at zeros ⊢
    refine ⟨zeros.1, fun c member => ?_⟩
    exact toLower_eq_zero (zeros.2 c.toLower ⟨c, member, rfl⟩)
  refine ⟨again, ?_⟩
  unfold optionalTxHashText
  simp only [clean]
  rw [if_neg (by simp [present, zero]), if_pos again, lower_lower]

theorem normalizedOptionalTxHash_eq_some {value : Value} {found : Option String}
    (read : normalizedOptionalTxHash value = some found) :
    normalizedSchemaTxHash found = found ∧ ∀ hash ∈ found, isTransactionHash hash = true := by
  have ofText : ∀ given : String, optionalTxHashText given = some found →
      normalizedSchemaTxHash found = found ∧ ∀ hash ∈ found, isTransactionHash hash = true := by
    intro given read
    simp only [optionalTxHashText] at read
    split at read
    · cases Option.some.inj read
      exact ⟨rfl, nofun⟩
    · rename_i nonzero
      split at read
      · rename_i accepted
        cases Option.some.inj read
        obtain ⟨again, normal⟩ := optionalTxHashText_lower accepted (Bool.eq_false_iff.mpr fun zero => nonzero (.inr zero))
        refine ⟨?_, fun hash member => ?_⟩
        · rw [normalizedSchemaTxHash, normal, Option.getD_some]
        · cases Option.some.inj (Option.mem_def.mp member)
          exact again
      · cases read
  unfold normalizedOptionalTxHash at read
  split at read
  · cases Option.some.inj read
    exact ⟨rfl, nofun⟩
  · cases Option.some.inj read
    exact ⟨rfl, nofun⟩
  · exact ofText _ read
  · cases read

section
variable [UrlParser]

theorem safeGreenfieldLocator_eq_some {value : Value} {found : String} (read : safeGreenfieldLocator value = some found) :
    safeGreenfieldLocator (.str found) = some found := by
  unfold safeGreenfieldLocator at read
  split at read
  · rename_i given
    have same : trim given = found := by
      unfold safeGreenfieldText at read
      split at read
      · exact Option.some.inj read
      · cases read
    rw [safeGreenfieldLocator, ← same, trim_trim]
    rw [← same] at read
    exact read
  · cases read

theorem locatorValue_eq_some {input : GraphInput} {found : String} (read : locatorValue input = some found) :
    safeGreenfieldLocator (.str found) = some found := by
  obtain ⟨locator, _, rest⟩ := Option.bind_eq_some_iff.mp read
  split at rest
  · rename_i direct located
    cases Option.some.inj rest
    exact safeGreenfieldLocator_eq_some located
  · obtain ⟨bucket, _, rest⟩ := Option.bind_eq_some_iff.mp rest
    obtain ⟨objectName, _, rest⟩ := Option.bind_eq_some_iff.mp rest
    split at rest
    · cases rest
    · exact safeGreenfieldLocator_eq_some rest

theorem allowlisted_eq_some (reparsed : ReparsedUrls) {value : Value} {origins : List String} {found : String}
    (read : allowlistedGreenfieldReadUrl value origins = some found) :
    UrlParser.parse found ≠ none ∧ safeHttpsUrl found = some found := by
  unfold allowlistedGreenfieldReadUrl at read
  split at read
  · obtain ⟨candidate, safe, rest⟩ := Option.bind_eq_some_iff.mp read
    obtain ⟨parsed, again, rest⟩ := Option.bind_eq_some_iff.mp rest
    split at rest
    · cases Option.some.inj rest
      obtain ⟨url, accepted, href⟩ := Option.map_eq_some_iff.mp safe
      obtain ⟨given, https⟩ := Option.filter_eq_some_iff.mp accepted
      have protocol : url.protocol = "https:" := by
        simp only [isSafeHttps, Bool.and_eq_true, beq_iff_eq] at https
        exact https.1.1.1
      have same := reparsed given protocol
      rw [href] at same
      refine ⟨by rw [same]; exact nofun, ?_⟩
      rw [safeHttpsUrl, same, Option.filter_some, if_pos https, Option.map_some, href]
    · cases rest
  · cases read

variable [Timestamps] {input : GraphInput} {options : ProjectionOptions} {type : ArtifactType}

/-- What is checked of a verified graph. -/
theorem verifiedGraph_eq_some {graph : VerifiedGraph} (proven : verifiedGraph input = some graph) :
    positiveInteger input.version = some graph.version ∧ isDigest graph.sha256Digest = true ∧
      isDigest graph.keccak256Digest = true ∧ 0 ≤ graph.sizeBytes ∧
      normalizedOptionalTxHash input.objectSealTransactionHash = some graph.sealTransactionHash ∧
      safeGreenfieldLocator (.str graph.locator) = some graph.locator := by
  obtain ⟨locator, _, proven⟩ := Option.bind_eq_some_iff.mp proven
  obtain ⟨verification, _, proven⟩ := Option.bind_eq_some_iff.mp proven
  obtain ⟨_, _, proven⟩ := Option.bind_eq_some_iff.mp proven
  obtain ⟨locatorAttempt, _, proven⟩ := Option.bind_eq_some_iff.mp proven
  obtain ⟨verificationAttempt, _, proven⟩ := Option.bind_eq_some_iff.mp proven
  obtain ⟨_, _, proven⟩ := Option.bind_eq_some_iff.mp proven
  obtain ⟨version, versioned, proven⟩ := Option.bind_eq_some_iff.mp proven
  obtain ⟨_, _, proven⟩ := Option.bind_eq_some_iff.mp proven
  obtain ⟨sha256, sha256Read, proven⟩ := Option.bind_eq_some_iff.mp proven
  obtain ⟨keccak256, keccak256Read, proven⟩ := Option.bind_eq_some_iff.mp proven
  obtain ⟨size, sizeRead, proven⟩ := Option.bind_eq_some_iff.mp proven
  obtain ⟨_, _, proven⟩ := Option.bind_eq_some_iff.mp proven
  obtain ⟨_, _, proven⟩ := Option.bind_eq_some_iff.mp proven
  obtain ⟨_, _, proven⟩ := Option.bind_eq_some_iff.mp proven
  obtain ⟨_, _, proven⟩ := Option.bind_eq_some_iff.mp proven
  obtain ⟨_, _, proven⟩ := Option.bind_eq_some_iff.mp proven
  obtain ⟨_, _, proven⟩ := Option.bind_eq_some_iff.mp proven
  obtain ⟨_, _, proven⟩ := Option.bind_eq_some_iff.mp proven
  obtain ⟨_, _, proven⟩ := Option.bind_eq_some_iff.mp proven
  obtain ⟨_, _, proven⟩ := Option.bind_eq_some_iff.mp proven
  obtain ⟨seals, sealed, proven⟩ := Option.bind_eq_some_iff.mp proven
  obtain ⟨time, _, proven⟩ := Option.bind_eq_some_iff.mp proven
  obtain ⟨located, locatorRead, proven⟩ := Option.bind_eq_some_iff.mp proven
  obtain ⟨_, _, proven⟩ := Option.bind_eq_some_iff.mp proven
  cases Option.some.inj proven
  exact ⟨versioned, digest_eq_some sha256Read, digest_eq_some keccak256Read, nonNegativeInteger_eq_some sizeRead, sealed,
    locatorValue_eq_some locatorRead⟩

omit [UrlParser] [Timestamps] in
theorem zodIssue_eq_nil {fails : Prop} [Decidable fails] {path : List String} {message : String} :
    zodIssue fails path message = [] ↔ ¬fails := by
  by_cases broken : fails
  · simp only [zodIssue, broken, if_true, List.cons_ne_nil, not_true_eq_false]
  · simp only [zodIssue, broken, if_false, not_false_eq_true]

omit [UrlParser] [Timestamps] in
theorem optionIssues_eq_nil {α : Type} {value : Option α} {check : α → List Issue} :
    Option.issues value check = [] ↔ ∀ given ∈ value, check given = [] := by
  cases value with
  | none => exact ⟨fun _ => nofun, fun _ => rfl⟩
  | some given =>
    constructor
    · intro none other member
      cases Option.some.inj (Option.mem_def.mp member)
      exact none
    · intro passes
      exact passes given rfl

omit [UrlParser] [Timestamps] in
theorem boundedTextIssues_eq_nil {path : List String} {maximum : Nat} {given : String} :
    boundedTextIssues path maximum given = [] ↔
      1 ≤ (utf16Units (trim given)).length ∧ (utf16Units (trim given)).length ≤ maximum := by
  rw [boundedTextIssues, List.append_eq_nil_iff, zodIssue_eq_nil, zodIssue_eq_nil, Nat.not_lt, Nat.not_lt]

omit [UrlParser] [Timestamps] in
theorem identity_issues (path : List String) :
    Option.issues (text input.artifactId 160) (boundedTextIssues (path ++ ["artifactId"]) 160) = [] ∧
      Option.issues (uuid input.jobId) (fun id => zodIssue (isUuid id = false) (path ++ ["jobId"]) "Invalid uuid") = [] ∧
      (text input.artifactId 160).map trim = text input.artifactId 160 := by
  refine ⟨optionIssues_eq_nil.mpr fun id read => ?_, optionIssues_eq_nil.mpr fun id read => ?_, ?_⟩
  · obtain ⟨clean, low, high⟩ := text_eq_some read
    exact boundedTextIssues_eq_nil.mpr ⟨by rwa [clean], by rwa [clean]⟩
  · refine zodIssue_eq_nil.mpr ?_
    rw [uuid_eq_some read]
    exact nofun
  · cases read : text input.artifactId 160 with
    | none => rfl
    | some id => exact congrArg some (text_eq_some read).1

/-- The text of a constant: it is not changed by trimming, and it is short. -/
structure Constant (given : String) : Prop where
  trimmed : trim given = given
  present : 1 ≤ (utf16Units given).length
  short : (utf16Units given).length ≤ 500

def isConstant (chars : List Char) : Bool :=
  chars != [] && chars.length ≤ 500 && chars.all (·.toNat < 0x10000) && chars.head?.all (!isTrimmed ·) &&
    chars.getLast?.all (!isTrimmed ·)

omit [UrlParser] [Timestamps] in
theorem Constant.ofList {chars : List Char} (constant : isConstant chars = true) : Constant (String.ofList chars) := by
  simp only [isConstant, Bool.and_eq_true, bne_iff_ne, decide_eq_true_eq, List.all_eq_true] at constant
  obtain ⟨⟨⟨⟨present, short⟩, narrow⟩, starts⟩, stops⟩ := constant
  have first : chars.dropWhile isTrimmed = chars := by
    refine List.dropWhile_eq_self_iff.mpr fun nonempty => ?_
    rw [List.head?_eq_some_head present] at starts
    simpa [List.head_eq_getElem] using starts
  have last : chars.rdropWhile isTrimmed = chars := by
    refine List.rdropWhile_eq_self_iff.mpr fun nonempty => ?_
    rw [List.getLast?_eq_some_getLast present] at stops
    simpa using stops
  have units : (utf16Units (String.ofList chars)).length = chars.length := by
    rw [utf16Units_ofList narrow, List.length_map]
  refine ⟨?_, ?_, ?_⟩
  · rw [trim_eq_ofList, String.toList_ofList, first, last]
  · rw [units]
    exact List.length_pos_iff.mpr present
  · rw [units]
    exact short

omit [UrlParser] [Timestamps] in
theorem Constant.issues {given : String} (constant : Constant given) (path : List String) : boundedTextIssues path 500 given = [] :=
  boundedTextIssues_eq_nil.mpr ⟨by rw [constant.trimmed]; exact constant.present, by rw [constant.trimmed]; exact constant.short⟩

omit [Timestamps] in
theorem offered_eq_some (reparsed : ReparsedUrls) {url : String} (offered : offeredReadUrl input options = some url) :
    UrlParser.parse url ≠ none ∧ safeHttpsUrl url = some url :=
  allowlisted_eq_some reparsed offered

theorem verifiedArtifact_trimmed {graph : VerifiedGraph} {url : String} (proven : verifiedGraph input = some graph) :
    (verifiedArtifact input type graph url).trimmed = verifiedArtifact input type graph url := by
  have summary : Constant (verifiedArtifact input type graph url).summary := .ofList (by decide)
  have sealing : normalizedSchemaTxHash (verifiedArtifact input type graph url).sealTransactionHash =
      (verifiedArtifact input type graph url).sealTransactionHash :=
    (normalizedOptionalTxHash_eq_some (verifiedGraph_eq_some proven).2.2.2.2.1).1
  have id : (verifiedArtifact input type graph url).artifactId.map trim = (verifiedArtifact input type graph url).artifactId :=
    (@identity_issues input []).2.2
  rw [EvidenceArtifact.trimmed, id, summary.trimmed, sealing]
  rfl

theorem verifiedArtifact_issues (reparsed : ReparsedUrls) {graph : VerifiedGraph} {url : String}
    (proven : verifiedGraph input = some graph) (offered : offeredReadUrl input options = some url) (path : List String) :
    (verifiedArtifact input type graph url).issues path = [] ↔ Timestamps.isDatetime graph.verifiedAt = true := by
  obtain ⟨versioned, sha256, keccak256, size, sealed, located⟩ := verifiedGraph_eq_some proven
  obtain ⟨normal, hashes⟩ := normalizedOptionalTxHash_eq_some sealed
  obtain ⟨parses, safe⟩ := offered_eq_some reparsed offered
  obtain ⟨id, job, _⟩ := @identity_issues input path
  have positive := positiveInteger_eq_some versioned
  have summary : boundedTextIssues (path ++ ["summary"]) 500 (verifiedArtifact input type graph url).summary = [] :=
    Constant.issues (.ofList (by decide)) _
  simp only [EvidenceArtifact.issues, List.append_eq_nil_iff, summary]
  simp only [verifiedArtifact, id, job, optionIssues_eq_nil, zodIssue_eq_nil, Option.mem_def, Option.some.injEq, forall_eq',
    normal, if_true, List.append_eq_nil_iff]
  have marks : ∀ hash, graph.sealTransactionHash = some hash → isTransactionHash hash = true := hashes
  simp [zodIssue, parses, sha256, keccak256, safe, located, positive.not_ge, size.not_gt]
  exact fun _ => marks

omit [UrlParser] [Timestamps] in
theorem unverifiedArtifact_status (proven : Bool) : (unverifiedArtifact input type proven).status ≠ .verified := by
  simp only [unverifiedArtifact]
  split_ifs <;> exact nofun

omit [UrlParser] [Timestamps] in
theorem unverifiedArtifact_texts (proven : Bool) : Constant (unverifiedArtifact input type proven).summary ∧
    ∀ reason ∈ (unverifiedArtifact input type proven).reason, Constant reason := by
  constructor
  · simp only [unverifiedArtifact]
    split <;> exact .ofList (by decide)
  · intro reason member
    simp only [unverifiedArtifact, Option.mem_def, Option.some.injEq] at member
    subst member
    split_ifs <;> exact .ofList (by decide)

theorem unverifiedArtifact_accepted (proven : Bool) (path : List String) :
    (unverifiedArtifact input type proven).issues path = [] ∧
      (unverifiedArtifact input type proven).trimmed = unverifiedArtifact input type proven := by
  obtain ⟨id, _, same⟩ := @identity_issues input path
  obtain ⟨summary, reasons⟩ := @unverifiedArtifact_texts input type proven
  have reason := optionIssues_eq_nil.mpr fun reason member => (reasons reason member).issues (path ++ ["reason"])
  have summaryIssues := summary.issues (path ++ ["summary"])
  have status := @unverifiedArtifact_status input type proven
  constructor
  · simp only [EvidenceArtifact.issues, List.append_eq_nil_iff, summaryIssues, reason, if_neg status]
    simp [unverifiedArtifact, id, optionIssues_eq_nil, zodIssue, normalizedSchemaTxHash]
    exact ⟨fun id read => uuid_eq_some read, fun version read => positiveInteger_eq_some read⟩
  · rw [EvidenceArtifact.trimmed, summary.trimmed]
    have reasonTrimmed : (unverifiedArtifact input type proven).reason.map trim = (unverifiedArtifact input type proven).reason := by
      cases given : (unverifiedArtifact input type proven).reason with
      | none => rfl
      | some reason => exact congrArg some (reasons reason given).trimmed
    rw [reasonTrimmed]
    have idTrimmed : (unverifiedArtifact input type proven).artifactId.map trim = (unverifiedArtifact input type proven).artifactId := same
    rw [idTrimmed]
    rfl

/-- The verification time that a proven publication with an allowed link shows is a datetime. A time
that was given as a text is one; a date is one exactly if its year has four digits. -/
def Timely (input : GraphInput) (options : ProjectionOptions) (type : ArtifactType) : Prop :=
  ∀ graph url, provenGraph input type = some graph → offeredReadUrl input options = some url →
    Timestamps.isDatetime graph.verifiedAt = true

theorem verifiedGraph_of_proven {graph : VerifiedGraph} (proven : provenGraph input type = some graph) :
    verifiedGraph input = some graph := by
  unfold provenGraph at proven
  split at proven
  · cases proven
  · exact proven

theorem artifactOf_trimmed : (artifactOf input options type).trimmed = artifactOf input options type := by
  unfold artifactOf
  split
  · rename_i graph url proven _
    exact verifiedArtifact_trimmed (verifiedGraph_of_proven proven)
  · exact (unverifiedArtifact_accepted _ []).2

theorem artifactOf_issues (reparsed : ReparsedUrls) (path : List String) :
    (artifactOf input options type).issues path = [] ↔ Timely input options type := by
  unfold artifactOf
  split
  · rename_i graph url proven offered
    rw [verifiedArtifact_issues reparsed (verifiedGraph_of_proven proven) offered]
    constructor
    · intro timely other link provenOther _
      rw [proven] at provenOther
      cases Option.some.inj provenOther
      exact timely
    · intro timely
      exact timely graph url proven offered
  · rename_i unproven
    refine ⟨fun _ graph url proven offered => absurd offered (unproven graph url proven), fun _ => ?_⟩
    exact (unverifiedArtifact_accepted _ path).1

theorem projectGreenfieldEvidence_eq_ok (reparsed : ReparsedUrls) {artifact : EvidenceArtifact}
    (typed : artifactType input.artifactType = some type) :
    projectGreenfieldEvidence input options = .ok artifact ↔ Timely input options type ∧ artifact = artifactOf input options type := by
  rw [projectGreenfieldEvidence, typed]
  show (artifactOf input options type).parse = _ ↔ _
  rw [EvidenceArtifact.parse, artifactOf_trimmed]
  by_cases accepted : (artifactOf input options type).issues [] = []
  · rw [if_pos accepted, Except.ok.injEq]
    exact ⟨fun same => ⟨(artifactOf_issues reparsed []).mp accepted, same.symm⟩, fun ⟨_, same⟩ => same.symm⟩
  · rw [if_neg accepted]
    exact ⟨nofun, fun ⟨timely, _⟩ => absurd ((artifactOf_issues reparsed []).mpr timely) accepted⟩

def EvidenceProjection.empty (options : ProjectionOptions) : EvidenceProjection :=
  ⟨options.currentVersion, defaultArtifact .agentProfile "AGENT_PROFILE_UNAVAILABLE",
    defaultArtifact .runBundle "RUN_BUNDLE_UNAVAILABLE"⟩

theorem empty_accepted (path : List String) :
    ((EvidenceProjection.empty options).shown type).issues path = [] ∧
      ((EvidenceProjection.empty options).shown type).trimmed = (EvidenceProjection.empty options).shown type := by
  have summary : Constant "No verified Greenfield publication is available." := .ofList (by decide)
  have profile : Constant "AGENT_PROFILE_UNAVAILABLE" := .ofList (by decide)
  have bundle : Constant "RUN_BUNDLE_UNAVAILABLE" := .ofList (by decide)
  cases type with
  | agentProfile =>
    constructor
    · simp [EvidenceProjection.empty, EvidenceProjection.shown, EvidenceArtifact.issues, defaultArtifact, Option.issues,
        normalizedSchemaTxHash, zodIssue, summary.issues, profile.issues]
    · simp [EvidenceProjection.empty, EvidenceProjection.shown, EvidenceArtifact.trimmed, defaultArtifact,
        normalizedSchemaTxHash, summary.trimmed, profile.trimmed]
  | runBundle =>
    constructor
    · simp [EvidenceProjection.empty, EvidenceProjection.shown, EvidenceArtifact.issues, defaultArtifact, Option.issues,
        normalizedSchemaTxHash, zodIssue, summary.issues, bundle.issues]
    · simp [EvidenceProjection.empty, EvidenceProjection.shown, EvidenceArtifact.trimmed, defaultArtifact,
        normalizedSchemaTxHash, summary.trimmed, bundle.trimmed]

end

end Bnbera.Evidence
