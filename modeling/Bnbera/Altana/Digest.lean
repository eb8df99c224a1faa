import Bnbera.Altana.Serialization
import Bnbera.Altana.Spending

namespace Bnbera.Altana

/-- Call entries that differ at most in letter case and in the order and repetition of selectors. -/
structure SameCall (entry other : CallPermission) : Prop where
  target : lower entry.target = lower other.target
  selectors : ∀ selector, selector ∈ entry.selectors.map lower ↔ selector ∈ other.selectors.map lower
  limit : entry.maxNativeValueWei = other.maxNativeValueWei

/-- Spend entries that differ at most in the letter case of the token address. -/
structure SameSpend (entry other : SpendPermission) : Prop where
  token : entry.token.normal = other.token.normal
  limit : entry.limitAtomic = other.limitAtomic
  period : entry.period = other.period

theorem sorted_eq_of_perm {xs ys : List String} (perm : xs.Perm ys) :
    xs.insertionSort (· ≤ ·) = ys.insertionSort (· ≤ ·) := by
  have sorted : ∀ items : List String, (items.insertionSort (· ≤ ·)).Pairwise (· ≤ ·) := by
    intro items
    have : Std.Total fun a b : String => a ≤ b := ⟨String.le_total⟩
    have : IsTrans String fun a b => a ≤ b := ⟨fun _ _ _ first second => String.le_trans first second⟩
    exact List.pairwise_insertionSort _ items
  exact List.Perm.eq_of_pairwise (fun a b _ _ first second => String.le_antisymm first second) (sorted xs) (sorted ys)
    ((List.perm_insertionSort _ xs).trans (perm.trans (List.perm_insertionSort _ ys).symm))

theorem sameCall_iff {entry other : CallPermission} : SameCall entry other ↔ entry.normal = other.normal := by
  constructor
  · rintro ⟨target, selectors, limit⟩
    have perm : (entry.selectors.map lower).dedup.Perm (other.selectors.map lower).dedup :=
      (List.perm_ext_iff_of_nodup (List.nodup_dedup _) (List.nodup_dedup _)).mpr fun selector => by
        rw [List.mem_dedup, List.mem_dedup, selectors]
    rw [CallPermission.normal, CallPermission.normal, target, sorted_eq_of_perm perm, limit]
  · intro same
    have limit : entry.normal.maxNativeValueWei = other.normal.maxNativeValueWei := by rw [same]
    refine ⟨congrArg CallPermission.target same, fun selector => ?_, limit⟩
    rw [← mem_normal_selectors, same, mem_normal_selectors]

theorem sameSpend_iff {entry other : SpendPermission} : SameSpend entry other ↔ entry.normal = other.normal := by
  constructor
  · rintro ⟨token, limit, period⟩
    rw [SpendPermission.normal, SpendPermission.normal, token]
    cases entry
    cases other
    cases limit
    cases period
    rfl
  · intro same
    have fields := congrArg (fun entry => (entry.token, entry.limitAtomic, entry.period)) same
    exact ⟨congrArg Prod.fst fields, congrArg (fun fields => fields.2.1) fields, congrArg (fun fields => fields.2.2) fields⟩

/-- The policy with its entries and selectors permuted, selectors repeated and letters in another case. -/
structure Variant (policy other : ScopedPolicy) : Prop where
  chain : other.chainId = policy.chainId
  admin : lower other.adminAddress = lower policy.adminAddress
  wallet : lower other.walletAddress = lower policy.walletAddress
  session : lower other.sessionPublicAddress = lower policy.sessionPublicAddress
  key : other.sessionPublicKey.map lower = policy.sessionPublicKey.map lower
  calls : ∃ permuted, permuted.Perm policy.calls ∧ List.Forall₂ SameCall other.calls permuted
  spend : ∃ permuted, permuted.Perm policy.spend ∧ List.Forall₂ SameSpend other.spend permuted
  expiry : other.expiresAtUnix = policy.expiresAtUnix

/-- No two call entries for one target differ, and no two spend entries for one bucket. -/
structure Unambiguous (policy : ScopedPolicy) : Prop where
  calls : ∀ entry ∈ policy.calls, ∀ other ∈ policy.calls, lower entry.target = lower other.target → SameCall entry other
  spend : ∀ entry ∈ policy.spend, ∀ other ∈ policy.spend, entry.normal.bucket = other.normal.bucket →
    SameSpend entry other

theorem map_eq_of_forall₂ {α β : Type} {same : α → α → Prop} {f : α → β} (agrees : ∀ a b, same a b → f a = f b)
    {xs ys : List α} (each : List.Forall₂ same xs ys) : xs.map f = ys.map f := by
  induction each with
  | nil => rfl
  | cons first _ ih => rw [List.map_cons, List.map_cons, agrees _ _ first, ih]

section
variable {α : Type} {r : α → α → Prop} [DecidableRel r] [Std.Total r] [IsTrans α r]

theorem insertionSort_eq_of_perm {xs ys : List α} (perm : xs.Perm ys)
    (alike : ∀ a ∈ xs, ∀ b ∈ xs, r a b → r b a → a = b) : xs.insertionSort r = ys.insertionSort r := by
  refine List.Perm.eq_of_pairwise (fun a b first second => ?_) (List.pairwise_insertionSort r xs)
    (List.pairwise_insertionSort r ys) ((List.perm_insertionSort r xs).trans (perm.trans (List.perm_insertionSort r ys).symm))
  exact alike a ((List.mem_insertionSort r).mp first) b (perm.mem_iff.mpr ((List.mem_insertionSort r).mp second))

end

theorem Unambiguous.sortCalls_eq {policy other : ScopedPolicy} (unambiguous : Unambiguous policy)
    (variant : Variant policy other) :
    sortCalls (other.calls.map CallPermission.normal) = sortCalls (policy.calls.map CallPermission.normal) := by
  obtain ⟨calls, perm, same⟩ := variant.calls
  rw [map_eq_of_forall₂ (f := CallPermission.normal) (fun _ _ => sameCall_iff.mp) same]
  refine insertionSort_eq_of_perm (r := callOrder) (perm.map CallPermission.normal) fun a inA b inB first second => ?_
  obtain ⟨entry, inside, rfl⟩ := List.mem_map.mp inA
  obtain ⟨entry', inside', rfl⟩ := List.mem_map.mp inB
  exact sameCall_iff.mp (unambiguous.calls entry (perm.mem_iff.mp inside) entry' (perm.mem_iff.mp inside')
    (String.le_antisymm first second))

theorem Unambiguous.sortSpend_eq {policy other : ScopedPolicy} (unambiguous : Unambiguous policy)
    (accepted : policy.Acceptable) (variant : Variant policy other) :
    sortSpend (other.spend.map SpendPermission.normal) = sortSpend (policy.spend.map SpendPermission.normal) := by
  obtain ⟨spend, perm, same⟩ := variant.spend
  rw [map_eq_of_forall₂ (f := SpendPermission.normal) (fun _ _ => sameSpend_iff.mp) same]
  refine insertionSort_eq_of_perm (r := spendOrder) (perm.map SpendPermission.normal) fun a inA b inB first second => ?_
  obtain ⟨entry, inside, rfl⟩ := List.mem_map.mp inA
  obtain ⟨entry', inside', rfl⟩ := List.mem_map.mp inB
  have member := perm.mem_iff.mp inside
  have member' := perm.mem_iff.mp inside'
  exact sameSpend_iff.mp (unambiguous.spend entry member entry' member' (SpendBucket.key_inj
    (accepted.spend entry member).1.token.normal (accepted.spend entry' member').1.token.normal
    (String.le_antisymm first second)))

theorem Unambiguous.normal_eq {policy other : ScopedPolicy} (unambiguous : Unambiguous policy)
    (accepted : policy.Acceptable) (variant : Variant policy other) : other.normal = policy.normal := by
  have calls := unambiguous.sortCalls_eq variant
  have spend := unambiguous.sortSpend_eq accepted variant
  simp only [ScopedPolicy.normal, variant.chain, variant.admin, variant.wallet, variant.session, variant.key, calls, spend,
    variant.expiry]

theorem Variant.moveCall {policy : ScopedPolicy} {entry : CallPermission} (member : entry ∈ policy.calls) :
    Variant policy { policy with calls := entry :: policy.calls.erase entry } where
  chain := rfl
  admin := rfl
  wallet := rfl
  session := rfl
  key := rfl
  calls := ⟨_, (List.perm_cons_erase member).symm, List.forall₂_same.mpr fun _ _ => sameCall_iff.mpr rfl⟩
  spend := ⟨_, .refl _, List.forall₂_same.mpr fun _ _ => sameSpend_iff.mpr rfl⟩
  expiry := rfl

theorem Variant.moveSpend {policy : ScopedPolicy} {entry : SpendPermission} (member : entry ∈ policy.spend) :
    Variant policy { policy with spend := entry :: policy.spend.erase entry } where
  chain := rfl
  admin := rfl
  wallet := rfl
  session := rfl
  key := rfl
  calls := ⟨_, .refl _, List.forall₂_same.mpr fun _ _ => sameCall_iff.mpr rfl⟩
  spend := ⟨_, (List.perm_cons_erase member).symm, List.forall₂_same.mpr fun _ _ => sameSpend_iff.mpr rfl⟩
  expiry := rfl

theorem first_call {policy : ScopedPolicy} {entry : CallPermission} {target : String} (lowered : lower entry.target = target)
    (same : ({ policy with calls := entry :: policy.calls.erase entry } : ScopedPolicy).normal = policy.normal) :
    policy.normal.calls.find? (fun candidate => candidate.target == target) = some entry.normal := by
  rw [← same]
  refine (find?_sortCalls (fun candidate => eq_of_beq) _).trans ?_
  rw [List.map_cons, List.find?_cons_of_pos]
  exact beq_iff_eq.mpr lowered

theorem first_spend {policy : ScopedPolicy} {entry : SpendPermission} {bucket : SpendBucket}
    (labelled : entry.normal.bucket = bucket)
    (same : ({ policy with spend := entry :: policy.spend.erase entry } : ScopedPolicy).normal = policy.normal) :
    permissionOf policy.normal.spend bucket = some entry.normal := by
  rw [← same]
  refine (find?_insertionSort spendOrder (fun a b first second => ?_) _).trans ?_
  · have alike : a.bucket.key = b.bucket.key :=
      congrArg SpendBucket.key ((eq_of_beq first).trans (eq_of_beq second).symm)
    unfold spendOrder
    exact alike ▸ String.le_refl a.bucket.key
  · rw [List.map_cons, List.find?_cons_of_pos]
    exact beq_iff_eq.mpr labelled

/-- A policy is serialized like all its variants exactly when it is unambiguous. -/
theorem serializePolicy_variant {policy : ScopedPolicy} (accepted : policy.Acceptable) :
    (∀ other, Variant policy other → other.Acceptable → serializePolicy other = serializePolicy policy) ↔
      Unambiguous policy := by
  constructor
  · intro stable
    constructor
    · have moved : ∀ entry ∈ policy.calls, policy.normal.calls.find? (fun candidate => candidate.target == lower entry.target) =
          some entry.normal := by
        intro entry member
        have accepted' : ({ policy with calls := entry :: policy.calls.erase entry } : ScopedPolicy).Acceptable :=
          { accepted with
            named := List.cons_ne_nil _ _
            calls := fun other inside => accepted.calls other ((List.perm_cons_erase member).mem_iff.mpr inside) }
        exact first_call rfl ((serializePolicy_eq_iff accepted' accepted).mp (stable _ (.moveCall member) accepted'))
      intro entry member other member' same
      have first := moved entry member
      rw [same, moved other member'] at first
      exact sameCall_iff.mpr (Option.some.inj first).symm
    · have moved : ∀ entry ∈ policy.spend, permissionOf policy.normal.spend entry.normal.bucket = some entry.normal := by
        intro entry member
        have accepted' : ({ policy with spend := entry :: policy.spend.erase entry } : ScopedPolicy).Acceptable :=
          { accepted with
            spend := fun other inside => accepted.spend other ((List.perm_cons_erase member).mem_iff.mpr inside) }
        exact first_spend rfl ((serializePolicy_eq_iff accepted' accepted).mp (stable _ (.moveSpend member) accepted'))
      intro entry member other member' same
      have first := moved entry member
      rw [same, moved other member'] at first
      exact sameSpend_iff.mpr (Option.some.inj first).symm
  · intro unambiguous other variant accepted'
    exact (serializePolicy_eq_iff accepted' accepted).mpr (unambiguous.normal_eq accepted variant)

/-- Read literally, the entries of the two policies allow the same calls: for a target and a selector in
lower case, they cover the same values. -/
def SameEntries (policy other : ScopedPolicy) : Prop :=
  ∀ target selector : String, ∀ value : Int, lower target = target → lower selector = selector → 0 ≤ value →
    ((∃ entry ∈ policy.calls, entry.target = target ∧ selector ∈ entry.selectors ∧ value ≤ entry.maxNativeValueWei) ↔
      ∃ entry ∈ other.calls, entry.target = target ∧ selector ∈ entry.selectors ∧ value ≤ entry.maxNativeValueWei)

theorem SameEntries.covers_iff {policy other : ScopedPolicy} (same : SameEntries policy other) (request : ActionRequest) :
    (∃ entry ∈ policy.calls, entry.Covers request) ↔ ∃ entry ∈ other.calls, entry.Covers request := by
  by_cases nonnegative : 0 ≤ request.valueWei
  · have iff := same (lower request.target) (lower request.selector) request.valueWei (lower_lower _) (lower_lower _) nonnegative
    simp only [CallPermission.Covers, nonnegative, true_and]
    exact iff
  · constructor
    · rintro ⟨entry, -, -, -, positive, -⟩
      exact absurd positive nonnegative
    · rintro ⟨entry, -, -, -, positive, -⟩
      exact absurd positive nonnegative

theorem isCallAllowed_congr {policy other : ScopedPolicy} (same : SameEntries policy other) (request : ActionRequest) :
    isCallAllowed policy request = isCallAllowed other request := by
  by_cases formed : request.Formed
  · have decided : ∀ given : ScopedPolicy, ∃ allowed, isCallAllowed given request = .ok allowed := by
      intro given
      simp only [isCallAllowed, normalizeAddress_eq_ok.mpr ⟨formed.target, rfl⟩,
        normalizeSelector_eq_ok.mpr ⟨formed.selector, rfl⟩]
      exact ⟨_, rfl⟩
    obtain ⟨allowed, first⟩ := decided policy
    obtain ⟨allowed', second⟩ := decided other
    have iff := (isCallAllowed_eq_ok.mp first).2
    have iff' := (isCallAllowed_eq_ok.mp second).2
    rw [same.covers_iff request, ← iff'] at iff
    rw [first, second, Bool.eq_iff_iff.mpr iff]
  · cases address : normalizeAddress request.target with
    | error error => simp only [isCallAllowed, address, bind, Except.bind]
    | ok target =>
      cases bytes : normalizeSelector request.selector with
      | error error => simp only [isCallAllowed, address, bytes, bind, Except.bind]
      | ok selector =>
        exact absurd ⟨(normalizeAddress_eq_ok.mp address).1, (normalizeSelector_eq_ok.mp bytes).1⟩ formed

theorem assertActionWithinPolicy_congr {policy other : ScopedPolicy}
    (normal : normalizePolicy policy = normalizePolicy other) (same : SameEntries policy other) (request : ActionRequest)
    (nowUnix : Int) (usage : List CumulativeSpend) :
    assertActionWithinPolicy policy request nowUnix usage = assertActionWithinPolicy other request nowUnix usage := by
  simp only [assertActionWithinPolicy, assertCallAllowed, assertPolicyValidAt, normal, isCallAllowed_congr same request]

/-- A request that cannot be read behind its call, so that the answer tells only whether the call is allowed. -/
def probe (target selector : String) (value : Int) : ActionRequest := ⟨target, selector, value, [⟨.native, -1, .call⟩]⟩

theorem probe_allowed {policy : ScopedPolicy} {target selector : String} {value nowUnix : Int}
    (allowed : assertCallAllowed policy (probe target selector value) nowUnix = .ok ()) :
    assertActionWithinPolicy policy (probe target selector value) nowUnix [] =
      .error ⟨.invalidSpendRequest, "A spend charge cannot be negative.", false⟩ := by
  have valid := (assertCallAllowed_eq_ok.mp allowed).1
  have accepted := normalizePolicy_eq_ok.mpr ⟨valid.accepted, rfl⟩
  have before := assertPolicyValidAt_eq_ok.mpr ⟨valid, rfl⟩
  simp only [assertActionWithinPolicy, before, allowed, accepted]
  rfl

theorem probe_refused {policy : ScopedPolicy} {target selector : String} {value nowUnix : Int}
    (valid : policy.ValidAt nowUnix) (refused : isCallAllowed policy (probe target selector value) = .ok false) :
    assertActionWithinPolicy policy (probe target selector value) nowUnix [] =
      .error ⟨if value > 0 then .nativeValueExceeded else .callNotAllowed,
        "The requested target, selector, or native value is outside the scoped policy.", false⟩ := by
  have before := assertPolicyValidAt_eq_ok.mpr ⟨valid, rfl⟩
  simp only [assertActionWithinPolicy, assertCallAllowed, before, refused]
  rfl

/-- Where two policies answer every request alike, what one of them allows literally the other does too. -/
theorem allows_of_answers {policy other : ScopedPolicy} (accepted : policy.Acceptable) (accepted' : other.Acceptable)
    (expiry : policy.expiresAtUnix = other.expiresAtUnix)
    (answers : ∀ request nowUnix usage, assertActionWithinPolicy policy request nowUnix usage =
      assertActionWithinPolicy other request nowUnix usage)
    {target selector : String} {value : Int} (lowered : lower target = target) (lowered' : lower selector = selector)
    (nonnegative : 0 ≤ value)
    (covered : ∃ entry ∈ policy.calls, entry.target = target ∧ selector ∈ entry.selectors ∧ value ≤ entry.maxNativeValueWei) :
    ∃ entry ∈ other.calls, entry.target = target ∧ selector ∈ entry.selectors ∧ value ≤ entry.maxNativeValueWei := by
  obtain ⟨entry, member, named, listed, within⟩ := covered
  have formed : (probe target selector value).Formed :=
    ⟨named ▸ (accepted.calls entry member).target, (accepted.calls entry member).selectors selector listed⟩
  have safe : isSafeInteger (policy.expiresAtUnix - 1) := by
    have bounds := accepted.expiry
    unfold isSafeInteger at bounds ⊢
    omega
  have valid : policy.ValidAt (policy.expiresAtUnix - 1) := ⟨accepted, safe, by omega⟩
  have valid' : other.ValidAt (policy.expiresAtUnix - 1) := ⟨accepted', safe, by omega⟩
  have allowed : assertCallAllowed policy (probe target selector value) (policy.expiresAtUnix - 1) = .ok () :=
    assertCallAllowed_eq_ok.mpr ⟨valid, formed, entry, member, by rw [probe, lowered, named],
      by rw [probe, lowered']; exact listed, nonnegative, within⟩
  have answer := answers (probe target selector value) (policy.expiresAtUnix - 1) []
  rw [probe_allowed allowed] at answer
  by_contra uncovered
  have refused : isCallAllowed other (probe target selector value) = .ok false := by
    refine isCallAllowed_eq_ok.mpr ⟨formed, fun impossible => (nomatch impossible), ?_⟩
    rintro ⟨found, inside, target', selector', -, within'⟩
    rw [probe, lowered] at target'
    rw [probe, lowered'] at selector'
    exact absurd ⟨found, inside, target', selector', within'⟩ uncovered
  rw [probe_refused valid' refused] at answer
  have codes := congrArg AltanaBoundaryError.code (Except.error.inj answer)
  dsimp only at codes
  split at codes <;> cases codes

theorem answers_iff {policy other : ScopedPolicy} (accepted : policy.Acceptable) (accepted' : other.Acceptable)
    (same : policy.normal = other.normal) :
    (∀ request nowUnix usage, assertActionWithinPolicy policy request nowUnix usage =
      assertActionWithinPolicy other request nowUnix usage) ↔ SameEntries policy other := by
  have expiry : policy.expiresAtUnix = other.expiresAtUnix := by
    have equal : policy.normal.expiresAtUnix = other.normal.expiresAtUnix := by rw [same]
    exact equal
  constructor
  · intro answers target selector value lowered lowered' nonnegative
    exact ⟨allows_of_answers accepted accepted' expiry answers lowered lowered' nonnegative,
      allows_of_answers accepted' accepted expiry.symm (fun request nowUnix usage => (answers request nowUnix usage).symm)
        lowered lowered' nonnegative⟩
  · intro entries request nowUnix usage
    have normal : normalizePolicy policy = normalizePolicy other := by
      rw [normalizePolicy_eq_ok.mpr ⟨accepted, rfl⟩, normalizePolicy_eq_ok.mpr ⟨accepted', rfl⟩, same]
    exact assertActionWithinPolicy_congr normal entries request nowUnix usage

theorem isSessionPublicKey_lower {text : String} (accepted : isSessionPublicKey text = true) :
    isSessionPublicKey (lower text) = true := by
  unfold isSessionPublicKey at accepted ⊢
  rw [lower_toList]
  split at accepted
  · rename_i digits chars
    have zero : Char.toLower '0' = '0' := rfl
    have letter : Char.toLower 'x' = 'x' := rfl
    simp only [Bool.and_eq_true, chars, List.map_cons, zero, letter, List.length_map] at accepted ⊢
    exact ⟨⟨accepted.1.1, all_isHexDigit_lower accepted.1.2⟩, accepted.2⟩
  · cases accepted

theorem CallPermission.Acceptable.normal {entry : CallPermission} (accepted : entry.Acceptable) :
    entry.normal.Acceptable where
  nonnegative := accepted.nonnegative
  selectors selector member := by
    obtain ⟨source, found, rfl⟩ := List.mem_map.mp (mem_normal_selectors.mp member)
    exact isHexText_lower (accepted.selectors source found)
  named none := by
    obtain ⟨selector, member⟩ := List.exists_mem_of_ne_nil _ accepted.named
    have kept := mem_normal_selectors.mpr (List.mem_map_of_mem (f := lower) member)
    rw [none] at kept
    cases kept
  target := isHexText_lower accepted.target

theorem CallPermission.normal_normal (entry : CallPermission) : entry.normal.normal = entry.normal := by
  refine sameCall_iff.mp ⟨lower_lower _, fun selector => ?_, rfl⟩
  constructor
  · intro member
    obtain ⟨lowered, found, rfl⟩ := List.mem_map.mp member
    obtain ⟨source, present, rfl⟩ := List.mem_map.mp (mem_normal_selectors.mp found)
    rw [lower_lower]
    exact List.mem_map_of_mem present
  · intro member
    obtain ⟨source, present, rfl⟩ := List.mem_map.mp member
    exact List.mem_map.mpr ⟨lower source, mem_normal_selectors.mpr member, lower_lower source⟩

theorem SpendPermission.normal_normal (entry : SpendPermission) : entry.normal.normal = entry.normal := by
  rw [SpendPermission.normal, SpendPermission.normal, SpendToken.normal_normal]

theorem sort_normal {α : Type} {r : α → α → Prop} [DecidableRel r] [Std.Total r] [IsTrans α r] {normal : α → α}
    (again : ∀ item, normal (normal item) = normal item) (items : List α) :
    (((items.map normal).insertionSort r).map normal).insertionSort r = (items.map normal).insertionSort r := by
  have same : ((items.map normal).insertionSort r).map normal = (items.map normal).insertionSort r := by
    refine (List.map_congr_left fun item member => ?_).trans (List.map_id _)
    obtain ⟨source, -, rfl⟩ := List.mem_map.mp ((List.mem_insertionSort r).mp member)
    exact again source
  rw [same]
  exact (List.pairwise_insertionSort r _).insertionSort_eq

theorem normalizePolicy_normal {policy : ScopedPolicy} (accepted : policy.Acceptable) :
    normalizePolicy policy.normal = .ok policy.normal := by
  rw [normalizePolicy_eq_ok]
  constructor
  · have calls : ∀ entry ∈ policy.normal.calls, entry.Acceptable := by
      intro entry member
      obtain ⟨source, found, rfl⟩ := List.mem_map.mp ((List.perm_insertionSort _ _).mem_iff.mp member)
      exact (accepted.calls source found).normal
    have spend : ∀ entry ∈ policy.normal.spend, entry.Acceptable ∧ entry.limitAtomic ≠ 0 := by
      intro entry member
      obtain ⟨source, found, rfl⟩ := List.mem_map.mp ((List.perm_insertionSort _ _).mem_iff.mp member)
      have before := accepted.spend source found
      exact ⟨⟨before.1.nonnegative, before.1.token.normal⟩, before.2⟩
    have named : policy.normal.calls ≠ [] := by
      obtain ⟨entry, member⟩ := List.exists_mem_of_ne_nil _ accepted.named
      have kept : entry.normal ∈ policy.normal.calls :=
        (List.perm_insertionSort _ _).mem_iff.mpr (List.mem_map_of_mem member)
      exact List.ne_nil_of_mem kept
    have key : ∀ value ∈ policy.normal.sessionPublicKey, isSessionPublicKey value = true := by
      intro value member
      obtain ⟨source, found, rfl⟩ := Option.map_eq_some_iff.mp member
      exact isSessionPublicKey_lower (accepted.key source found)
    exact ⟨accepted.chain, accepted.expiry, named, calls, spend, isHexText_lower accepted.admin,
      isHexText_lower accepted.wallet, isHexText_lower accepted.session, key⟩
  · have calls := sort_normal (r := callOrder) CallPermission.normal_normal policy.calls
    have spend := sort_normal (r := spendOrder) SpendPermission.normal_normal policy.spend
    have key : (policy.sessionPublicKey.map lower).map lower = policy.sessionPublicKey.map lower := by
      cases policy.sessionPublicKey with
      | none => rfl
      | some value => exact congrArg some (lower_lower value)
    rw [← sortCalls_eq, ← sortCalls_eq] at calls
    rw [← sortSpend_eq, ← sortSpend_eq] at spend
    simp only [ScopedPolicy.normal, lower_lower, key, calls, spend]

/-- For accepted policies: the serialized text is that of every variant exactly when the policy is
unambiguous, two policies with one text give the same answers exactly when their entries read the same
literally, and a normal policy is not changed by normalizing it again. -/
theorem policy_text_determines {policy other normal normal' : ScopedPolicy} (accepted : normalizePolicy policy = .ok normal)
    (accepted' : normalizePolicy other = .ok normal') :
    ((∀ variant again, Variant policy variant → normalizePolicy variant = .ok again →
        serializePolicy variant = serializePolicy policy) ↔ Unambiguous policy) ∧
      (serializePolicy policy = serializePolicy other →
        ((∀ request nowUnix usage, assertActionWithinPolicy policy request nowUnix usage =
          assertActionWithinPolicy other request nowUnix usage) ↔ SameEntries policy other)) ∧
      normalizePolicy normal = .ok normal := by
  obtain ⟨acceptable, rfl⟩ := normalizePolicy_eq_ok.mp accepted
  obtain ⟨acceptable', -⟩ := normalizePolicy_eq_ok.mp accepted'
  refine ⟨?_, fun same => ?_, normalizePolicy_normal acceptable⟩
  · rw [← serializePolicy_variant acceptable]
    constructor
    · intro stable variant like ok
      exact stable variant _ like (normalizePolicy_eq_ok.mpr ⟨ok, rfl⟩)
    · intro stable variant again like ok
      exact stable variant like (normalizePolicy_eq_ok.mp ok).1
  · exact answers_iff acceptable acceptable' ((serializePolicy_eq_iff acceptable acceptable').mp same)

def callsPolicy (calls : List CallPermission) : ScopedPolicy := { spendingPolicy [⟨.native, 50, .day⟩] with calls := calls }

def limited (selector : String) (maxNativeValueWei : Int) : CallPermission :=
  ⟨"0x4444444444444444444444444444444444444444", [selector], maxNativeValueWei⟩

/-- A selector that is repeated in upper case leaves the text of the policy as it is. -/
theorem policy_text_of_repeated :
    serializePolicy (callsPolicy [⟨"0x4444444444444444444444444444444444444444", ["0xABCDEF01", "0xabcdef01"], 100⟩]) =
      serializePolicy (callsPolicy [limited "0xabcdef01" 100]) := by
  have unambiguous : Unambiguous (callsPolicy [limited "0xabcdef01" 100]) := by
    constructor
    · intro entry member other member' _
      rw [List.mem_singleton.mp member, List.mem_singleton.mp member']
      exact sameCall_iff.mpr rfl
    · intro entry member other member' _
      rw [List.mem_singleton.mp member, List.mem_singleton.mp member']
      exact sameSpend_iff.mpr rfl
  have variant : Variant (callsPolicy [limited "0xabcdef01" 100])
      (callsPolicy [⟨"0x4444444444444444444444444444444444444444", ["0xABCDEF01", "0xabcdef01"], 100⟩]) :=
    ⟨rfl, rfl, rfl, rfl, rfl, ⟨_, .refl _, .cons (sameCall_iff.mpr (by decide +kernel)) .nil⟩,
      ⟨_, .refl _, List.forall₂_same.mpr fun _ _ => sameSpend_iff.mpr rfl⟩, rfl⟩
  have accepted : normalizePolicy (callsPolicy [limited "0xabcdef01" 100]) =
      .ok (callsPolicy [limited "0xabcdef01" 100]) := by decide +kernel
  have accepted' : normalizePolicy (callsPolicy [⟨"0x4444444444444444444444444444444444444444",
      ["0xABCDEF01", "0xabcdef01"], 100⟩]) = .ok (callsPolicy [limited "0xabcdef01" 100]) := by decide +kernel
  exact (policy_text_determines accepted accepted).1.mpr unambiguous _ _ variant accepted'

/-- Two limits for one target in another order have another text, and a selector in upper case has the
text of the one in lower case but allows no call. -/
theorem policy_text_misses :
    (∃ policy variant : ScopedPolicy, Variant policy variant ∧ (normalizePolicy variant).isOk ∧
      serializePolicy variant ≠ serializePolicy policy) ∧
    (∃ policy other : ScopedPolicy, ∃ request : ActionRequest, serializePolicy policy = serializePolicy other ∧
      assertActionWithinPolicy policy request 1700000000 [] = .ok () ∧
      assertActionWithinPolicy other request 1700000000 [] ≠ .ok ()) := by
  constructor
  · refine ⟨callsPolicy [limited "0xabcdef01" 5, limited "0xabcdef01" 100], _,
      Variant.moveCall (List.mem_cons_of_mem _ (List.mem_singleton_self (limited "0xabcdef01" 100))), by decide +kernel, by decide +kernel⟩
  · exact ⟨callsPolicy [limited "0xabcdef01" 100], callsPolicy [limited "0xABCDEF01" 100],
      spendingRequest 10 [⟨.native, 10, .day⟩], by decide +kernel, by decide +kernel, by decide +kernel⟩

end Bnbera.Altana
