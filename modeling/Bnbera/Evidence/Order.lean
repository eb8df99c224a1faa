import Bnbera.Evidence.Accepted

/-! Which evidence is shown for a list of inputs, and whether it depends on their order. -/

namespace Bnbera.Evidence

section
variable {α β : Type} {prefer : β → α → β} {reached : β → Prop} {items : List α} {start best : β} {winner : α}

theorem foldl_eq_winner (initial : reached start) (kept : ∀ current item, reached current → item ∈ items → reached (prefer current item))
    (wins : ∀ current, reached current → prefer current winner = best) (stays : ∀ item ∈ items, prefer best item = best)
    (member : winner ∈ items) : items.foldl prefer start = best := by
  obtain ⟨before, after, rfl⟩ := List.append_of_mem member
  have reach : ∀ (front : List α) current, reached current → (∀ item ∈ front, item ∈ before ++ winner :: after) →
      reached (front.foldl prefer current) := by
    intro front
    induction front with
    | nil => exact fun _ reach _ => reach
    | cons item rest ih =>
      intro current reach members
      exact ih _ (kept current item reach (members item List.mem_cons_self)) fun other later =>
        members other (List.mem_cons_of_mem _ later)
  have stay : ∀ back : List α, (∀ item ∈ back, item ∈ before ++ winner :: after) → back.foldl prefer best = best := by
    intro back members
    induction back with
    | nil => rfl
    | cons item rest ih =>
      rw [List.foldl_cons, stays item (members item List.mem_cons_self)]
      exact ih fun other later => members other (List.mem_cons_of_mem _ later)
  rw [List.foldl_append, List.foldl_cons, wins _ (reach before start initial fun item given => List.mem_append_left _ given)]
  exact stay after fun item given => List.mem_append_right _ (List.mem_cons_of_mem _ given)

theorem foldl_keeps (initial : reached start) (kept : ∀ current item, reached current → item ∈ items → reached (prefer current item)) :
    reached (items.foldl prefer start) := by
  induction items generalizing start with
  | nil => exact initial
  | cons item rest ih =>
    exact ih (kept start item initial List.mem_cons_self) fun current other reach later =>
      kept current other reach (List.mem_cons_of_mem _ later)

end

theorem prefer_or (current next : EvidenceArtifact) : prefer current next = next ∨ prefer current next = current := by
  simp only [prefer]
  split
  · exact .inl rfl
  · exact .inr rfl

def ofType (inputs : List GraphInput) (type : ArtifactType) : List GraphInput :=
  inputs.filter fun input => artifactType input.artifactType = some type

theorem mem_ofType {inputs : List GraphInput} {type : ArtifactType} {input : GraphInput} :
    input ∈ ofType inputs type ↔ input ∈ inputs ∧ artifactType input.artifactType = some type := by
  simp only [ofType, List.mem_filter, decide_eq_true_eq]

def DistinctVersions (inputs : List GraphInput) : Prop :=
  ∀ type, (∀ input ∈ ofType inputs type, (positiveInteger input.version).isSome) ∧
    ((ofType inputs type).map fun input => positiveInteger input.version).Nodup

section
variable [UrlParser] [Timestamps] {inputs other : List GraphInput} {input : GraphInput} {options : ProjectionOptions}
  {type : ArtifactType} {result : EvidenceProjection}

theorem artifactOf_version : (artifactOf input options type).version = positiveInteger input.version := by
  unfold artifactOf
  split
  · rename_i graph url proven _
    exact (verifiedGraph_eq_some (verifiedGraph_of_proven proven)).1.symm
  · rfl

def keep (inputs : List GraphInput) (options : ProjectionOptions) (type : ArtifactType) (start : EvidenceArtifact) : EvidenceArtifact :=
  (ofType inputs type).foldl (fun current input => prefer current (artifactOf input options type)) start

def EvidenceProjection.after (output : EvidenceProjection) (inputs : List GraphInput) (options : ProjectionOptions) : EvidenceProjection :=
  ⟨output.currentVersion, keep inputs options .agentProfile output.profile, keep inputs options .runBundle output.runBundle⟩

theorem EvidenceProjection.shown_after (output : EvidenceProjection) (inputs : List GraphInput) (options : ProjectionOptions)
    (type : ArtifactType) : (output.after inputs options).shown type = keep inputs options type (output.shown type) := by
  cases type <;> rfl

omit [UrlParser] [Timestamps] in
theorem EvidenceProjection.ext_shown {first second : EvidenceProjection} (version : first.currentVersion = second.currentVersion)
    (shown : ∀ type, first.shown type = second.shown type) : first = second := by
  have profile : first.profile = second.profile := shown .agentProfile
  have bundle : first.runBundle = second.runBundle := shown .runBundle
  cases first
  cases second
  simp_all

omit [UrlParser] [Timestamps] in
theorem shown_showing {projection : EvidenceProjection} {type other : ArtifactType} {artifact : EvidenceArtifact} :
    (projection.showing type artifact).shown other = if other = type then artifact else projection.shown other := by
  cases type <;> cases other <;> rfl

theorem projectStep_eq_ok (reparsed : ReparsedUrls) {output next : EvidenceProjection} :
    projectStep options output input = .ok next ↔
      (∀ type, artifactType input.artifactType = some type → Timely input options type) ∧ next = output.after [input] options := by
  unfold projectStep
  cases typed : artifactType input.artifactType with
  | none =>
    have same : output.after [input] options = output := by
      refine EvidenceProjection.ext_shown rfl fun type => ?_
      rw [EvidenceProjection.shown_after, keep]
      simp [ofType, typed]
    rw [same]
    constructor
    · intro done
      exact ⟨nofun, (Except.ok.inj done).symm⟩
    · rintro ⟨_, rfl⟩
      rfl
  | some type =>
    have same : output.after [input] options = output.showing type (prefer (output.shown type) (artifactOf input options type)) := by
      refine EvidenceProjection.ext_shown (by cases type <;> rfl) fun other => ?_
      rw [EvidenceProjection.shown_after, keep, shown_showing]
      by_cases named : other = type
      · simp [ofType, typed, named]
      · simp [ofType, typed, named, Ne.symm named]
    simp only [bind_eq_ok, projectGreenfieldEvidence_eq_ok reparsed typed, same]
    constructor
    · rintro ⟨artifact, ⟨timely, rfl⟩, done⟩
      refine ⟨fun other given => ?_, (Except.ok.inj done).symm⟩
      cases Option.some.inj given
      exact timely
    · rintro ⟨timely, rfl⟩
      exact ⟨_, ⟨timely type rfl, rfl⟩, rfl⟩

omit [UrlParser] [Timestamps] in
theorem ofType_cons (input : GraphInput) (rest : List GraphInput) (type : ArtifactType) :
    ofType (input :: rest) type = ofType [input] type ++ ofType rest type :=
  List.filter_append [input] rest

theorem EvidenceProjection.after_cons (output : EvidenceProjection) (input : GraphInput) (rest : List GraphInput)
    (options : ProjectionOptions) : output.after (input :: rest) options = (output.after [input] options).after rest options := by
  refine EvidenceProjection.ext_shown rfl fun type => ?_
  rw [shown_after, shown_after, shown_after, keep, keep, keep, ofType_cons, List.foldl_append]

/-- The loop ends exactly if every input passes its schema. -/
theorem foldlM_projectStep (reparsed : ReparsedUrls) {output final : EvidenceProjection} :
    inputs.foldlM (projectStep options) output = .ok final ↔
      (∀ type, ∀ input ∈ ofType inputs type, Timely input options type) ∧ final = output.after inputs options := by
  induction inputs generalizing output with
  | nil =>
    have same : output.after [] options = output := EvidenceProjection.ext_shown rfl fun type => EvidenceProjection.shown_after ..
    rw [List.foldlM_nil, same]
    constructor
    · intro done
      exact ⟨fun type input member => absurd (mem_ofType.mp member).1 List.not_mem_nil, (Except.ok.inj done).symm⟩
    · rintro ⟨_, rfl⟩
      rfl
  | cons input rest ih =>
    rw [List.foldlM_cons, bind_eq_ok, EvidenceProjection.after_cons]
    constructor
    · rintro ⟨next, step, run⟩
      obtain ⟨timely, rfl⟩ := (projectStep_eq_ok reparsed).mp step
      obtain ⟨others, same⟩ := ih.mp run
      refine ⟨fun type given member => ?_, same⟩
      obtain ⟨listed, typed⟩ := mem_ofType.mp member
      rcases List.mem_cons.mp listed with rfl | later
      · exact timely type typed
      · exact others type given (mem_ofType.mpr ⟨later, typed⟩)
    · rintro ⟨timely, same⟩
      refine ⟨_, (projectStep_eq_ok reparsed).mpr ⟨fun type typed => ?_, rfl⟩, ih.mpr ⟨fun type given member => ?_, same⟩⟩
      · exact timely type input (mem_ofType.mpr ⟨List.mem_cons_self, typed⟩)
      · obtain ⟨listed, typed⟩ := mem_ofType.mp member
        exact timely type given (mem_ofType.mpr ⟨List.mem_cons_of_mem _ listed, typed⟩)

def chosen (inputs : List GraphInput) (options : ProjectionOptions) (type : ArtifactType) : EvidenceArtifact :=
  ((EvidenceProjection.empty options).after inputs options).shown type

theorem chosen_accepted (reparsed : ReparsedUrls) (timely : ∀ input ∈ ofType inputs type, Timely input options type)
    (path : List String) : (chosen inputs options type).issues path = [] ∧
      (chosen inputs options type).trimmed = chosen inputs options type := by
  rw [chosen, EvidenceProjection.shown_after]
  refine @foldl_keeps _ _ _ (fun artifact : EvidenceArtifact => artifact.issues path = [] ∧ artifact.trimmed = artifact) _ _
    (empty_accepted path) ?_
  intro current input accepted member
  rcases prefer_or current (artifactOf input options type) with next | stays
  · rw [next]
    exact ⟨(artifactOf_issues reparsed path).mpr (timely input member), artifactOf_trimmed⟩
  · rw [stays]
    exact accepted

/-- When the projection returns, and what. -/
theorem projectEvidenceProjection_eq_ok (reparsed : ReparsedUrls) : projectEvidenceProjection inputs options = .ok result ↔
    (∀ type, ∀ input ∈ ofType inputs type, Timely input options type) ∧ (∀ version ∈ options.currentVersion, 0 < version) ∧
      result = (EvidenceProjection.empty options).after inputs options := by
  have passes : (∀ type, ∀ input ∈ ofType inputs type, Timely input options type) →
      (((EvidenceProjection.empty options).after inputs options).parse = .ok result ↔
        (∀ version ∈ options.currentVersion, 0 < version) ∧ result = (EvidenceProjection.empty options).after inputs options) := by
    intro timely
    have profile := chosen_accepted reparsed (timely .agentProfile) ["profile"]
    have bundle := chosen_accepted reparsed (timely .runBundle) ["runBundle"]
    have version : ((EvidenceProjection.empty options).after inputs options).currentVersion = options.currentVersion := rfl
    rw [chosen] at profile bundle
    generalize (EvidenceProjection.empty options).after inputs options = output at *
    have profileIssues : output.profile.issues ["profile"] = [] := profile.1
    have bundleIssues : output.runBundle.issues ["runBundle"] = [] := bundle.1
    have same : (⟨output.currentVersion, output.profile.trimmed, output.runBundle.trimmed⟩ : EvidenceProjection) = output :=
      EvidenceProjection.ext_shown rfl fun type => by
        cases type with
        | agentProfile => exact profile.2
        | runBundle => exact bundle.2
    rw [EvidenceProjection.parse, profileIssues, bundleIssues, same, version, List.append_nil, List.append_nil]
    by_cases valid : ∀ version ∈ options.currentVersion, 0 < version
    · rw [if_pos (optionIssues_eq_nil.mpr fun version given => zodIssue_eq_nil.mpr (valid version given).not_ge), Except.ok.injEq]
      exact ⟨fun same => ⟨valid, same.symm⟩, fun ⟨_, same⟩ => same.symm⟩
    · rw [if_neg fun none => valid fun version given =>
        Int.not_le.mp (zodIssue_eq_nil.mp (optionIssues_eq_nil.mp none version given))]
      exact ⟨nofun, fun ⟨holds, _⟩ => absurd holds valid⟩
  rw [projectEvidenceProjection, bind_eq_ok]
  constructor
  · rintro ⟨output, run, parsed⟩
    obtain ⟨timely, rfl⟩ := (foldlM_projectStep reparsed).mp run
    exact ⟨timely, (passes timely).mp parsed⟩
  · rintro ⟨timely, parsed⟩
    exact ⟨_, (foldlM_projectStep reparsed).mpr ⟨timely, rfl⟩, (passes timely).mpr parsed⟩

def GraphInput.newness (input : GraphInput) : Int := (positiveInteger input.version).getD 0

def shownStatus (options : ProjectionOptions) (type : ArtifactType) (input : GraphInput) : EvidenceStatus :=
  (artifactOf input options type).status

/-- The artifact is that of an input that wins against all other inputs of its type, in any order. -/
inductive Picks (inputs : List GraphInput) (options : ProjectionOptions) (type : ArtifactType) : EvidenceArtifact → Prop
  | nothing : ofType inputs type = [] → Picks inputs options type ((EvidenceProjection.empty options).shown type)
  | proven {input : GraphInput} : input ∈ ofType inputs type → shownStatus options type input = .verified →
      (∀ other ∈ ofType inputs type, shownStatus options type other = .verified → other.newness ≤ input.newness) →
      Picks inputs options type (artifactOf input options type)
  | newest {input : GraphInput} : input ∈ ofType inputs type → (∀ other ∈ ofType inputs type, shownStatus options type other ≠ .verified) →
      (∀ other ∈ ofType inputs type, other.newness ≤ input.newness) →
      shownStatus options type input = .pending ∨
        shownStatus options type input = .unavailable ∧ (∀ other ∈ ofType inputs type, shownStatus options type other ≠ .pending) →
      Picks inputs options type (artifactOf input options type)

omit [UrlParser] [Timestamps] in
theorem ofType_perm (perm : inputs.Perm other) (type : ArtifactType) : (ofType inputs type).Perm (ofType other type) :=
  perm.filter _

omit [UrlParser] [Timestamps] in
theorem DistinctVersions.perm (versions : DistinctVersions inputs) (perm : inputs.Perm other) : DistinctVersions other := by
  intro type
  obtain ⟨positive, distinct⟩ := versions type
  have same := ofType_perm perm type
  exact ⟨fun input member => positive input (same.mem_iff.mpr member), (same.map _).nodup_iff.mp distinct⟩

theorem Picks.perm {artifact : EvidenceArtifact} (picks : Picks inputs options type artifact) (perm : inputs.Perm other) :
    Picks other options type artifact := by
  have same := ofType_perm perm type
  have back : ∀ input, input ∈ ofType other type → input ∈ ofType inputs type := fun input => same.mem_iff.mpr
  cases picks with
  | nothing empty => exact .nothing (by rw [empty] at same; exact same.nil_eq.symm)
  | proven member status most => exact .proven (same.mem_iff.mp member) status fun input given => most input (back input given)
  | newest member none most status =>
    refine .newest (same.mem_iff.mp member) (fun input given => none input (back input given))
      (fun input given => most input (back input given)) ?_
    exact status.imp_right fun ⟨unavailable, still⟩ => ⟨unavailable, fun input given => still input (back input given)⟩

omit [UrlParser] [Timestamps] in
theorem DistinctVersions.newness_pos (versions : DistinctVersions inputs) (member : input ∈ ofType inputs type) : 0 < input.newness := by
  obtain ⟨version, read⟩ := Option.isSome_iff_exists.mp ((versions type).1 input member)
  rw [GraphInput.newness, read, Option.getD_some]
  exact positiveInteger_eq_some read

omit [UrlParser] [Timestamps] in
theorem DistinctVersions.eq_or_lt (versions : DistinctVersions inputs) {first second : GraphInput} (member : first ∈ ofType inputs type)
    (member' : second ∈ ofType inputs type) (most : first.newness ≤ second.newness) : first = second ∨ first.newness < second.newness := by
  rcases Int.le_iff_lt_or_eq.mp most with less | same
  · exact .inr less
  · refine .inl (List.inj_on_of_nodup_map (versions type).2 member member' ?_)
    obtain ⟨version, read⟩ := Option.isSome_iff_exists.mp ((versions type).1 first member)
    obtain ⟨version', read'⟩ := Option.isSome_iff_exists.mp ((versions type).1 second member')
    rw [GraphInput.newness, GraphInput.newness, read, read'] at same
    rw [read, read']
    exact congrArg some same

theorem artifactOf_newness : (artifactOf input options type).version.getD 0 = input.newness := by
  rw [artifactOf_version, GraphInput.newness]

omit [UrlParser] [Timestamps] in
theorem prefer_eq_next {current next : EvidenceArtifact} (admitted : (next.status = .verified ∧ current.status ≠ .verified) ∨
    (next.status = current.status ∧ current.version.getD 0 < next.version.getD 0) ∨
    (current.status ≠ .verified ∧ next.status = .pending ∧ current.version.getD 0 < next.version.getD 0)) :
    prefer current next = next :=
  if_pos admitted

omit [UrlParser] [Timestamps] in
theorem prefer_eq_current {current next : EvidenceArtifact} (verified : next.status = .verified → current.status = .verified)
    (older : next.status = current.status ∨ current.status ≠ .verified ∧ next.status = .pending → next.version.getD 0 ≤ current.version.getD 0) :
    prefer current next = current := by
  refine if_neg ?_
  rintro (⟨proven, unproven⟩ | ⟨same, newer⟩ | ⟨unproven, pending, newer⟩)
  · exact unproven (verified proven)
  · exact absurd newer (older (.inl same)).not_gt
  · exact absurd newer (older (.inr ⟨unproven, pending⟩)).not_gt

def Kept (inputs : List GraphInput) (options : ProjectionOptions) (type : ArtifactType) (artifact : EvidenceArtifact) : Prop :=
  artifact = (EvidenceProjection.empty options).shown type ∨
    ∃ input ∈ ofType inputs type, artifact = artifactOf input options type ∧ artifact.status ≠ .failed

omit [UrlParser] [Timestamps] in
theorem empty_shown (options : ProjectionOptions) (type : ArtifactType) :
    ((EvidenceProjection.empty options).shown type).status = .unavailable ∧
      ((EvidenceProjection.empty options).shown type).version.getD 0 = 0 := by
  cases type <;> exact ⟨rfl, rfl⟩

theorem Kept.status_ne {artifact : EvidenceArtifact} (kept : Kept inputs options type artifact) : artifact.status ≠ .failed := by
  rcases kept with rfl | ⟨_, _, _, status⟩
  · rw [(empty_shown options type).1]
    exact nofun
  · exact status

theorem Kept.prefer {current : EvidenceArtifact} (kept : Kept inputs options type current) (member : input ∈ ofType inputs type) :
    Kept inputs options type (prefer current (artifactOf input options type)) := by
  by_cases failed : (artifactOf input options type).status = .failed
  · rw [prefer_eq_current]
    · exact kept
    · intro verified
      rw [failed] at verified
      cases verified
    · rintro (same | ⟨_, pending⟩)
      · exact absurd (same.symm.trans failed) kept.status_ne
      · rw [failed] at pending
        cases pending
  · rcases prefer_or current (artifactOf input options type) with next | stays
    · rw [next]
      exact .inr ⟨input, member, rfl, failed⟩
    · rw [stays]
      exact kept

theorem chosen_kept : Kept inputs options type (chosen inputs options type) := by
  rw [chosen, EvidenceProjection.shown_after]
  exact foldl_keeps (.inl rfl) fun _ _ kept member => kept.prefer member

/-- What wins against all other inputs is chosen. -/
theorem chosen_of_picks (versions : DistinctVersions inputs) {artifact : EvidenceArtifact}
    (picks : Picks inputs options type artifact) : chosen inputs options type = artifact := by
  rw [chosen, EvidenceProjection.shown_after, keep]
  obtain ⟨emptyStatus, emptyVersion⟩ := empty_shown options type
  cases picks with
  | nothing empty =>
    rw [empty]
    rfl
  | @proven input member status most =>
    refine @foldl_eq_winner _ _ _ (Kept inputs options type) _ _ _ input (.inl rfl) (fun _ _ kept given => kept.prefer given) ?_ ?_ member
    · rintro current (rfl | ⟨other, given, rfl, _⟩)
      · exact prefer_eq_next (.inl ⟨status, by rw [emptyStatus]; exact nofun⟩)
      · by_cases proven : (artifactOf other options type).status = .verified
        · rcases versions.eq_or_lt given member (most other given proven) with rfl | older
          · exact (prefer_or _ _).elim id id
          · refine prefer_eq_next (.inr (.inl ⟨status.trans proven.symm, ?_⟩))
            rw [artifactOf_newness, artifactOf_newness]
            exact older
        · exact prefer_eq_next (.inl ⟨status, proven⟩)
    · intro other given
      refine prefer_eq_current (fun _ => status) ?_
      rw [artifactOf_newness, artifactOf_newness]
      rintro (same | ⟨unproven, _⟩)
      · exact most other given (same.trans status)
      · exact absurd status unproven
  | @newest input member none most status =>
    refine @foldl_eq_winner _ _ _ (Kept inputs options type) _ _ _ input (.inl rfl) (fun _ _ kept given => kept.prefer given) ?_ ?_ member
    · rintro current (rfl | ⟨other, given, rfl, standing⟩)
      · have newer : ((EvidenceProjection.empty options).shown type).version.getD 0 <
            (artifactOf input options type).version.getD 0 := by
          rw [emptyVersion, artifactOf_newness]
          exact versions.newness_pos member
        rcases status with pending | ⟨unavailable, _⟩
        · exact prefer_eq_next (.inr (.inr ⟨by rw [emptyStatus]; exact nofun, pending, newer⟩))
        · exact prefer_eq_next (.inr (.inl ⟨unavailable.trans emptyStatus.symm, newer⟩))
      · rcases versions.eq_or_lt given member (most other given) with rfl | older
        · exact (prefer_or _ _).elim id id
        · rw [← @artifactOf_newness _ _ other options type, ← @artifactOf_newness _ _ input options type] at older
          rcases status with pending | ⟨unavailable, still⟩
          · exact prefer_eq_next (.inr (.inr ⟨none other given, pending, older⟩))
          · refine prefer_eq_next (.inr (.inl ⟨unavailable.trans ?_, older⟩))
            have unproven := none other given
            have unpending := still other given
            rw [shownStatus] at unproven unpending
            cases known : (artifactOf other options type).status with
            | verified => exact absurd known unproven
            | pending => exact absurd known unpending
            | failed => exact absurd known standing
            | unavailable => rfl
    · intro other given
      refine prefer_eq_current (fun proven => absurd proven (none other given)) fun _ => ?_
      rw [artifactOf_newness, artifactOf_newness]
      exact most other given

def statusOf (options : ProjectionOptions) (type : ArtifactType) (input : GraphInput) : EvidenceStatus :=
  if (provenGraph input type).isSome && (offeredReadUrl input options).isSome then .verified
  else if isFailed input then .failed
  else if isPending input then .pending
  else .unavailable

theorem shownStatus_eq : shownStatus = statusOf := by
  funext options type input
  rw [shownStatus, artifactOf, statusOf]
  cases provenGraph input type <;> cases offeredReadUrl input options <;> rfl

/-- The newest input of a type, if none is proven, is pending, or it is unavailable and no input is pending. -/
def Settles (inputs : List GraphInput) (options : ProjectionOptions) (type : ArtifactType) : Prop :=
  ∀ newest ∈ ofType inputs type, (∀ other ∈ ofType inputs type, other.newness ≤ newest.newness) →
    (∀ other ∈ ofType inputs type, statusOf options type other ≠ .verified) →
    statusOf options type newest = .pending ∨
      statusOf options type newest = .unavailable ∧ ∀ other ∈ ofType inputs type, statusOf options type other ≠ .pending

omit [UrlParser] [Timestamps] in
theorem exists_newest {given : List GraphInput} (present : given ≠ []) :
    ∃ newest ∈ given, ∀ other ∈ given, other.newness ≤ newest.newness := by
  induction given with
  | nil => exact absurd rfl present
  | cons first rest ih =>
    by_cases empty : rest = []
    · subst empty
      exact ⟨first, List.mem_cons_self, by simp⟩
    · obtain ⟨newest, member, most⟩ := ih empty
      by_cases older : first.newness ≤ newest.newness
      · exact ⟨newest, List.mem_cons_of_mem _ member, List.forall_mem_cons.mpr ⟨older, most⟩⟩
      · refine ⟨first, List.mem_cons_self, List.forall_mem_cons.mpr ⟨le_rfl, fun other later => ?_⟩⟩
        exact (most other later).trans (not_le.mp older).le

theorem picks_of_settles (settles : Settles inputs options type) : ∃ artifact, Picks inputs options type artifact := by
  by_cases proven : ∃ input ∈ ofType inputs type, shownStatus options type input = .verified
  · obtain ⟨first, given, status⟩ := proven
    have present : (ofType inputs type).filter (fun input => shownStatus options type input = .verified) ≠ [] :=
      List.ne_nil_of_mem (List.mem_filter.mpr ⟨given, decide_eq_true status⟩)
    obtain ⟨newest, member, most⟩ := exists_newest present
    obtain ⟨listed, verified⟩ := List.mem_filter.mp member
    exact ⟨_, .proven listed (of_decide_eq_true verified) fun other given verified =>
      most other (List.mem_filter.mpr ⟨given, decide_eq_true verified⟩)⟩
  · have none : ∀ other ∈ ofType inputs type, shownStatus options type other ≠ .verified :=
      fun other given verified => proven ⟨other, given, verified⟩
    by_cases empty : ofType inputs type = []
    · exact ⟨_, .nothing empty⟩
    · obtain ⟨newest, member, most⟩ := exists_newest empty
      rw [Settles, ← shownStatus_eq] at settles
      exact ⟨_, .newest member none most (settles newest member most none)⟩

/-- The artifact that is to be shown for a type: the verified one of the greatest version, else that of the input
of the greatest version, and the default one where there is no input. -/
def Expected (inputs : List GraphInput) (options : ProjectionOptions) (type : ArtifactType) (artifact : EvidenceArtifact) : Prop :=
  (∃ input ∈ ofType inputs type, projectGreenfieldEvidence input options = .ok artifact ∧ artifact.status = .verified ∧
    ∀ other ∈ ofType inputs type, ∀ shown, projectGreenfieldEvidence other options = .ok shown → shown.status = .verified →
      other.newness ≤ input.newness) ∨
  (∀ other ∈ ofType inputs type, ∀ shown, projectGreenfieldEvidence other options = .ok shown → shown.status ≠ .verified) ∧
    ((∃ input ∈ ofType inputs type, projectGreenfieldEvidence input options = .ok artifact ∧
      ∀ other ∈ ofType inputs type, other.newness ≤ input.newness) ∨
    ofType inputs type = [] ∧ artifact = (EvidenceProjection.empty options).shown type)

/-- The projection returns, the same in any order of the inputs and what is expected for each type; no type with a failed
publication is shown as one without any. -/
def OrderFree (inputs : List GraphInput) (options : ProjectionOptions) : Prop :=
  ∃ result, (∀ other, inputs.Perm other → projectEvidenceProjection other options = .ok result) ∧
    (∀ type, Expected inputs options type (result.shown type)) ∧
    ∀ type, (∃ input ∈ ofType inputs type, ∃ shown, projectGreenfieldEvidence input options = .ok shown ∧ shown.status = .failed) →
      result.shown type ≠ (EvidenceProjection.empty options).shown type

theorem project_ofType (reparsed : ReparsedUrls) (timely : ∀ input ∈ ofType inputs type, Timely input options type)
    (member : input ∈ ofType inputs type) {shown : EvidenceArtifact} :
    projectGreenfieldEvidence input options = .ok shown ↔ shown = artifactOf input options type := by
  rw [projectGreenfieldEvidence_eq_ok reparsed (mem_ofType.mp member).2]
  exact and_iff_right (timely input member)

theorem Picks.expected (reparsed : ReparsedUrls) (timely : ∀ input ∈ ofType inputs type, Timely input options type)
    {artifact : EvidenceArtifact} (picks : Picks inputs options type artifact) : Expected inputs options type artifact := by
  cases picks with
  | nothing empty =>
    exact .inr ⟨fun other given => absurd (by rwa [empty] at given) List.not_mem_nil, .inr ⟨empty, rfl⟩⟩
  | @proven input member status most =>
    refine .inl ⟨input, member, (project_ofType reparsed timely member).mpr rfl, status, fun other given shown projected verified => ?_⟩
    cases (project_ofType reparsed timely given).mp projected
    exact most other given verified
  | @newest input member none most status =>
    refine .inr ⟨fun other given shown projected => ?_, .inl ⟨input, member, (project_ofType reparsed timely member).mpr rfl, most⟩⟩
    cases (project_ofType reparsed timely given).mp projected
    exact none other given

theorem Picks.ne_empty (versions : DistinctVersions inputs) (member : input ∈ ofType inputs type) {artifact : EvidenceArtifact}
    (picks : Picks inputs options type artifact) : artifact ≠ (EvidenceProjection.empty options).shown type := by
  have positive : ∀ other ∈ ofType inputs type, artifactOf other options type ≠ (EvidenceProjection.empty options).shown type := by
    intro other given same
    have newer := versions.newness_pos given
    rw [← @artifactOf_newness _ _ other options type, same, (empty_shown options type).2] at newer
    exact absurd newer (lt_irrefl 0)
  cases picks with
  | nothing empty =>
    rw [empty] at member
    cases member
  | proven given _ _ => exact positive _ given
  | newest given _ _ _ => exact positive _ given

theorem Settles.orderFree (reparsed : ReparsedUrls) (versions : DistinctVersions inputs)
    (timely : ∀ type, ∀ input ∈ ofType inputs type, Timely input options type)
    (valid : ∀ version ∈ options.currentVersion, 0 < version) (settles : ∀ type, Settles inputs options type) :
    OrderFree inputs options := by
  have picks : ∀ type, Picks inputs options type (chosen inputs options type) := by
    intro type
    obtain ⟨artifact, picks⟩ := picks_of_settles (settles type)
    rw [chosen_of_picks versions picks]
    exact picks
  refine ⟨(EvidenceProjection.empty options).after inputs options, fun other perm => ?_, fun type => (picks type).expected reparsed (timely type),
    fun type ⟨input, member, _⟩ => (picks type).ne_empty versions member⟩
  refine (projectEvidenceProjection_eq_ok reparsed).mpr ⟨fun type input member => ?_, valid, ?_⟩
  · exact timely type input ((ofType_perm perm type).mem_iff.mpr member)
  · refine EvidenceProjection.ext_shown rfl fun type => ?_
    exact (chosen_of_picks (versions.perm perm) ((picks type).perm perm)).symm

/-- A pending input that stands first is shown, as long as none is proven. -/
theorem chosen_pending (versions : DistinctVersions inputs) {before after : List GraphInput} (split : inputs = before ++ input :: after)
    (member : input ∈ ofType inputs type) (none : ∀ other ∈ ofType inputs type, shownStatus options type other ≠ .verified)
    (pending : shownStatus options type input = .pending) :
    (chosen (input :: (before ++ after)) options type).status = .pending := by
  obtain ⟨emptyStatus, emptyVersion⟩ := empty_shown options type
  have typed := (mem_ofType.mp member).2
  have first : keep [input] options type ((EvidenceProjection.empty options).shown type) = artifactOf input options type := by
    have listed : ofType [input] type = [input] := by simp [ofType, typed]
    rw [keep, listed]
    refine prefer_eq_next (.inr (.inr ⟨by rw [emptyStatus]; exact nofun, pending, ?_⟩))
    rw [emptyVersion, artifactOf_newness]
    exact versions.newness_pos member
  rw [chosen, EvidenceProjection.after_cons, EvidenceProjection.shown_after, EvidenceProjection.shown_after, first, keep]
  refine @foldl_keeps _ _ _ (fun artifact : EvidenceArtifact => artifact.status = .pending) _ _ pending ?_
  intro current other stands given
  obtain ⟨listed, typedOther⟩ := mem_ofType.mp given
  have among : other ∈ ofType inputs type := by
    refine mem_ofType.mpr ⟨?_, typedOther⟩
    rw [split]
    exact List.mem_append.mpr ((List.mem_append.mp listed).imp_right (List.mem_cons_of_mem _))
  by_cases still : (artifactOf other options type).status = .pending
  · rcases prefer_or current (artifactOf other options type) with next | stays
    · rw [next]
      exact still
    · rw [stays]
      exact stands
  · rw [prefer_eq_current]
    · exact stands
    · exact fun proven => absurd proven (none other among)
    · rintro (same | ⟨_, given⟩)
      · exact absurd (same.trans stands) still
      · exact absurd given still

theorem Expected.newest (reparsed : ReparsedUrls) (versions : DistinctVersions inputs)
    (timely : ∀ input ∈ ofType inputs type, Timely input options type) {newest : GraphInput} (member : newest ∈ ofType inputs type)
    (most : ∀ other ∈ ofType inputs type, other.newness ≤ newest.newness)
    (none : ∀ other ∈ ofType inputs type, shownStatus options type other ≠ .verified) {artifact : EvidenceArtifact}
    (expected : Expected inputs options type artifact) : artifact = artifactOf newest options type := by
  rcases expected with ⟨input, given, projected, verified, _⟩ | ⟨_, ⟨input, given, projected, latest⟩ | ⟨empty, _⟩⟩
  · cases (project_ofType reparsed timely given).mp projected
    exact absurd verified (none input given)
  · cases (project_ofType reparsed timely given).mp projected
    rcases versions.eq_or_lt given member (most input given) with rfl | older
    · rfl
    · exact absurd older (latest newest member).not_gt
  · rw [empty] at member
    cases member

/-- The evidence that is shown for inputs of distinct versions does not depend on their order, and is what is expected,
exactly if the version of the market is valid, every verification time is a datetime, and for each type the newest input
settles it. -/
theorem orderFree_iff (reparsed : ReparsedUrls) (versions : DistinctVersions inputs) :
    OrderFree inputs options ↔ (∀ version ∈ options.currentVersion, 0 < version) ∧
      (∀ type, ∀ input ∈ ofType inputs type, Timely input options type) ∧ ∀ type, Settles inputs options type := by
  constructor
  · rintro ⟨result, same, expected, _⟩
    obtain ⟨timely, valid, rfl⟩ := (projectEvidenceProjection_eq_ok reparsed).mp (same inputs (.refl _))
    simp only [Settles, ← shownStatus_eq]
    refine ⟨valid, timely, fun type newest member most none => ?_⟩
    have shown := (expected type).newest reparsed versions (timely type) member most none
    by_contra unsettled
    rw [not_or, not_and, not_forall] at unsettled
    obtain ⟨unpending, other⟩ := unsettled
    have status : shownStatus options type newest = .unavailable := by
      have standing : Kept inputs options type (chosen inputs options type) := chosen_kept
      have unfailed := standing.status_ne
      rw [chosen, shown] at unfailed
      have unproven := none newest member
      rw [shownStatus] at unpending unproven ⊢
      cases known : (artifactOf newest options type).status with
      | verified => exact absurd known unproven
      | pending => exact absurd known unpending
      | failed => exact absurd known unfailed
      | unavailable => rfl
    obtain ⟨input, pending⟩ := other status
    rw [Classical.not_imp, not_not] at pending
    obtain ⟨given, pending⟩ := pending
    obtain ⟨before, after, split⟩ := List.append_of_mem (mem_ofType.mp given).1
    have moved : inputs.Perm (input :: (before ++ after)) := by
      rw [split]
      exact List.perm_middle
    have first := chosen_pending versions split given none pending
    have again := ((projectEvidenceProjection_eq_ok reparsed).mp (same _ moved)).2.2
    rw [chosen, ← again, shown] at first
    exact absurd (status.symm.trans first) nofun
  · rintro ⟨valid, timely, settles⟩
    exact Settles.orderFree reparsed versions timely valid settles

end

/-- A publication of an agent profile of which only the version and the status of the verification are known. -/
def profileInput (version : Int) (status : String) : GraphInput where
  artifactType := .str "agent_profile"
  artifactId := .null
  version := .bigint version
  objectState := .null
  objectSha256Digest := .null
  objectKeccak256Digest := .null
  objectSizeBytes := .null
  objectSealTransactionHash := .null
  objectReadbackVerifiedAt := .null
  locator := none
  verification := some {
    status := .str status
    sealConfirmed := .null
    readbackStatus := .null
    expectedSha256Digest := .null
    observedSha256Digest := .null
    expectedKeccak256Digest := .null
    observedKeccak256Digest := .null
    expectedSizeBytes := .null
    observedSizeBytes := .null
    hashesMatch := .null
    sizeMatches := .null
    checkedAt := .null
    publicationAttemptId := .null }
  readUrl := .null
  jobId := .null

@[reducible] def noUrls : UrlParser where
  parse _ := none
  resolve _ _ := none

@[reducible] def noTimes : Timestamps where
  toISOString _ := ""
  isDatetime _ := false

theorem noUrls_reparsed : @ReparsedUrls noUrls := fun parsed _ => absurd parsed nofun

theorem positiveInteger_profile (version : Int) (status : String) (safe : version ≤ maxSafeInteger) (positive : 0 < version) :
    positiveInteger (profileInput version status).version = some version := by
  simp [positiveInteger, nonNegativeInteger, profileInput, safe, positive, positive.le]

theorem ofType_two (first second : String) (type : ArtifactType) : ofType [profileInput 2 first, profileInput 1 second] type =
    if type = .agentProfile then [profileInput 2 first, profileInput 1 second] else [] := by
  cases type <;> rfl

theorem distinct_two (first second : String) : DistinctVersions [profileInput 2 first, profileInput 1 second] := by
  have newest := positiveInteger_profile 2 first (by decide) (by decide)
  have oldest := positiveInteger_profile 1 second (by decide) (by decide)
  intro type
  rw [ofType_two]
  cases type with
  | agentProfile =>
    refine ⟨?_, ?_⟩
    · simp [newest, oldest]
    · simp [newest, oldest]
  | runBundle => exact ⟨fun input member => absurd member List.not_mem_nil, List.nodup_nil⟩

theorem timely_profile (version : Int) (status : String) (options : ProjectionOptions) (type : ArtifactType) :
    @Timely noUrls noTimes (profileInput version status) options type := by
  intro graph url proven
  have unproven : @provenGraph noUrls noTimes (profileInput version status) type = none := by
    cases type <;> rfl
  rw [unproven] at proven
  cases proven

theorem timely_two (first second : String) (options : ProjectionOptions) (type : ArtifactType) :
    ∀ input ∈ ofType [profileInput 2 first, profileInput 1 second] type, @Timely noUrls noTimes input options type := by
  intro input member
  rcases List.mem_pair.mp (mem_ofType.mp member).1 with rfl | rfl
  · exact timely_profile _ _ _ _
  · exact timely_profile _ _ _ _

/-- A failed publication, and one that is older, are shown as if there were none. -/
theorem failed_not_orderFree : DistinctVersions [profileInput 2 "failed", profileInput 1 "failed"] ∧
    ¬@OrderFree noUrls noTimes [profileInput 2 "failed", profileInput 1 "failed"] ⟨none, none, none⟩ := by
  refine ⟨distinct_two _ _, ?_⟩
  rintro ⟨result, same, _, present⟩
  obtain ⟨_, _, rfl⟩ := (@projectEvidenceProjection_eq_ok noUrls noTimes _ _ _ noUrls_reparsed).mp (same _ (.refl _))
  refine present .agentProfile ⟨profileInput 2 "failed", List.mem_cons_self, _,
    (@projectGreenfieldEvidence_eq_ok noUrls noTimes _ _ .agentProfile noUrls_reparsed _ rfl).mpr ⟨timely_profile _ _ _ _, rfl⟩, rfl⟩ ?_
  rfl

/-- A pending publication settles it, whatever is older. -/
theorem orderFree_pending :
    @OrderFree noUrls noTimes [profileInput 2 "not_verified", profileInput 1 "failed"] ⟨none, none, none⟩ := by
  refine (@orderFree_iff noUrls noTimes _ _ noUrls_reparsed (distinct_two _ _)).mpr ⟨nofun, timely_two _ _ _, ?_⟩
  intro type newest member most _
  rcases List.mem_pair.mp (mem_ofType.mp member).1 with rfl | rfl
  · left
    cases type <;> decide
  · cases type with
    | agentProfile =>
      have later := most (profileInput 2 "not_verified") List.mem_cons_self
      simp only [GraphInput.newness, positiveInteger_profile 2 _ (by decide) (by decide),
        positiveInteger_profile 1 _ (by decide) (by decide)] at later
      exact absurd later (by decide)
    | runBundle => cases member

end Bnbera.Evidence
