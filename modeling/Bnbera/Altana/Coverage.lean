import Mathlib.Data.List.Find
import Bnbera.Altana.Normal
import Bnbera.Altana.Permitted
import Bnbera.Altana.Spending

namespace Bnbera.Altana

theorem parseAtomic_decimalText {value result : Int} (nonnegative : 0 ≤ value) (label : String) :
    parseAtomic (decimalText value) label = .ok result ↔ result = value := by
  rw [parseAtomic, refuse_bind, pure_eq_ok, bigintOf_decimalText nonnegative, and_iff_right_iff_imp]
  rintro -
  obtain ⟨amount, rfl⟩ := Int.eq_ofNat_of_zero_le nonnegative
  rw [decimalText_ofNat, Nat.toList_repr, not_or, not_not]
  refine ⟨Nat.toDigits_ne_nil, List.all_eq_true.mpr fun c member => ?_⟩
  have digit := Nat.isDigit_of_mem_toDigits (by decide) (by decide) member
  simp only [Char.isDigit, Bool.and_eq_true, decide_eq_true_eq] at digit
  simp only [isDigit, Bool.and_eq_true, decide_eq_true_eq]
  exact digit

def SpendCharge.shown (charge : SpendCharge) : PublicSpendEvidence :=
  ⟨charge.token.normal, decimalText charge.amountAtomic, charge.period⟩

theorem publicCharge_eq_ok {charge : SpendCharge} {result : PublicSpendEvidence} :
    publicCharge charge = .ok result ↔ charge.Acceptable ∧ result = charge.shown := by
  rw [publicCharge, refuse_bind, not_lt, bind_eq_ok]
  constructor
  · rintro ⟨nonnegative, token, accepted, same⟩
    obtain ⟨hex, rfl⟩ := normalizeToken_eq_ok.mp accepted
    exact ⟨⟨nonnegative, hex⟩, pure_eq_ok.mp same⟩
  · rintro ⟨accepted, rfl⟩
    exact ⟨accepted.nonnegative, _, normalizeToken_eq_ok.mpr ⟨accepted.token, rfl⟩, rfl⟩

theorem publicAmount_shown {charge result : SpendCharge} (accepted : charge.Acceptable) (label : String) :
    publicAmount label charge.shown = .ok result ↔ result = charge.normal := by
  simp only [publicAmount, bind_eq_ok, normalizeToken_eq_ok, SpendCharge.shown,
    parseAtomic_decimalText accepted.nonnegative, pure_eq_ok, SpendToken.normal_normal]
  constructor
  · rintro ⟨_, ⟨-, rfl⟩, _, rfl, rfl⟩
    rfl
  · rintro rfl
    exact ⟨_, ⟨accepted.token.normal, rfl⟩, _, rfl, rfl⟩

theorem mapM_publicAmount {charges results : List SpendCharge} (accepted : ∀ charge ∈ charges, charge.Acceptable)
    (label : String) :
    (charges.map SpendCharge.shown).mapM (publicAmount label) = .ok results ↔ results = normalAmounts charges := by
  induction charges generalizing results with
  | nil => exact pure_eq_ok
  | cons charge rest ih =>
    obtain ⟨first, later⟩ := List.forall_mem_cons.mp accepted
    rw [List.map_cons, List.mapM_cons]
    simp only [bind_eq_ok, publicAmount_shown first, ih later, pure_eq_ok]
    constructor
    · rintro ⟨_, rfl, _, rfl, rfl⟩
      rfl
    · rintro rfl
      exact ⟨_, rfl, _, rfl, rfl⟩

theorem native_shown {charges : List SpendCharge} (accepted : ∀ charge ∈ charges, charge.Acceptable) :
    (((charges.map SpendCharge.shown).filter fun charge => charge.token == .native).map fun charge =>
      bigintOf charge.amountAtomic).sum = totalOf (fun charge => charge.token == .native) (normalAmounts charges) := by
  induction charges with
  | nil => rfl
  | cons charge rest ih =>
    obtain ⟨first, later⟩ := List.forall_mem_cons.mp accepted
    have amount : bigintOf charge.shown.amountAtomic = charge.amountAtomic := bigintOf_decimalText first.nonnegative
    have unfolded : normalAmounts (charge :: rest) = charge.normal :: normalAmounts rest := rfl
    rw [unfolded, totalOf_cons, ← ih later, List.map_cons, List.filter_cons]
    have same : charge.shown.token = charge.normal.token := rfl
    rw [same]
    split
    · rw [List.map_cons, List.sum_cons, amount]
      rfl
    · rw [Int.zero_add]

theorem normalizePublicSpends_shown {valueWei : Int} {charges : List SpendCharge} {result : Int × List SpendCharge}
    (nonnegative : 0 ≤ valueWei) (accepted : ∀ charge ∈ charges, charge.Acceptable)
    (native : totalOf (fun charge => charge.token == .native) (normalAmounts charges) = valueWei) (label : String) :
    normalizePublicSpends (decimalText valueWei) (charges.map SpendCharge.shown) label = .ok result ↔
      result = (valueWei, chargeTotals (normalAmounts charges)) := by
  simp only [normalizePublicSpends, bind_eq_ok, parseAtomic_decimalText nonnegative, mapM_publicAmount accepted,
    refuse_eq_ok, exists_const, pure_eq_ok, not_not]
  constructor
  · rintro ⟨_, rfl, _, rfl, -, rfl⟩
    rfl
  · rintro rfl
    exact ⟨_, rfl, _, rfl, native, rfl⟩

theorem sameNormalized_iff {normalize : String → Checked String} {accepts : String → Prop}
    (each : ∀ {value result}, normalize value = .ok result ↔ accepts value ∧ result = lower value) {left right : String} :
    sameNormalized normalize left right = true ↔ accepts left ∧ accepts right ∧ lower left = lower right := by
  unfold sameNormalized
  constructor
  · intro same
    split at same
    · rename_i l r first second
      obtain ⟨accepted, rfl⟩ := each.mp first
      obtain ⟨accepted', rfl⟩ := each.mp second
      exact ⟨accepted, accepted', eq_of_beq same⟩
    · cases same
  · rintro ⟨accepted, accepted', same⟩
    rw [each.mpr ⟨accepted, rfl⟩, each.mpr ⟨accepted', rfl⟩, same]
    exact beq_self_eq_true _

theorem SpendToken.Acceptable.normalized {token : SpendToken} (accepted : token.Acceptable) :
    normalizeToken token = .ok token.normal := normalizeToken_eq_ok.mpr ⟨accepted, rfl⟩

def SpendToken.IsNormal (token : SpendToken) : Prop := token.Acceptable ∧ token.normal = token

theorem SpendToken.Acceptable.isNormal {token : SpendToken} (accepted : token.Acceptable) : token.normal.IsNormal :=
  ⟨accepted.normal, token.normal_normal⟩

theorem samePublicBucket_eq {permission : SpendPermission} {total : SpendCharge} (normal : permission.token.IsNormal)
    (normal' : total.token.IsNormal) :
    samePublicBucket (publicSpend permission) total = .ok (permission.bucket == total.bucket) := by
  have left : normalizeToken (publicSpend permission).token = .ok permission.token := by
    have shown := normal.1.normalized
    rw [normal.2] at shown
    exact shown
  have right : normalizeToken total.token = .ok total.token := by
    have shown := normal'.1.normalized
    rw [normal'.2] at shown
    exact shown
  have same : (permission.token == total.token && permission.period == total.period) =
      (permission.bucket == total.bucket) := by
    rw [Bool.eq_iff_iff, Bool.and_eq_true, beq_iff_eq, beq_iff_eq, beq_iff_eq, SpendPermission.bucket,
      SpendCharge.bucket, SpendBucket.mk.injEq]
  rw [samePublicBucket, left, right, ← same]
  rfl

theorem findM?_eq_ok {α : Type} {p : α → Checked Bool} {q : α → Bool} {items : List α}
    (each : ∀ item ∈ items, p item = .ok (q item)) : items.findM? p = .ok (items.find? q) := by
  induction items with
  | nil => rfl
  | cons item rest ih =>
    obtain ⟨first, later⟩ := List.forall_mem_cons.mp each
    rw [List.findM?, first, List.find?_cons]
    cases q item with
    | true => rfl
    | false => exact ih later

theorem checkPublicTotal_eq_ok {spend : List SpendPermission} {total : SpendCharge}
    (normal : ∀ permission ∈ spend, permission.token.IsNormal ∧ 0 ≤ permission.limitAtomic)
    (normal' : total.token.IsNormal) :
    checkPublicTotal (spend.map publicSpend) total = .ok () ↔ ∃ permission,
      permissionOf spend total.bucket = some permission ∧ total.amountAtomic ≤ permission.limitAtomic := by
  have buckets : ∀ item ∈ spend.map publicSpend, samePublicBucket item total =
      .ok ((⟨item.token, item.period⟩ : SpendBucket) == total.bucket) := by
    intro item member
    obtain ⟨permission, inside, rfl⟩ := List.mem_map.mp member
    exact samePublicBucket_eq (normal permission inside).1 normal'
  have search : (spend.map publicSpend).find? (fun item => (⟨item.token, item.period⟩ : SpendBucket) == total.bucket) =
      (permissionOf spend total.bucket).map publicSpend := List.find?_map ..
  simp only [checkPublicTotal, findM?_eq_ok buckets, search, bind_eq_ok]
  cases found : permissionOf spend total.bucket with
  | none =>
    constructor
    · rintro ⟨_, same, failed⟩
      cases same
      cases failed
    · rintro ⟨_, present, -⟩
      cases present
  | some permission =>
    have nonnegative := (normal permission (List.mem_of_find?_eq_some found)).2
    constructor
    · rintro ⟨_, same, within⟩
      cases same
      obtain ⟨value, read, passed⟩ := bind_eq_ok.mp within
      obtain rfl := (parseAtomic_decimalText nonnegative _).mp read
      exact ⟨permission, rfl, not_lt.mp (refuse_eq_ok.mp passed)⟩
    · rintro ⟨_, present, within⟩
      cases present
      exact ⟨_, rfl, bind_eq_ok.mpr ⟨_, (parseAtomic_decimalText nonnegative _).mpr rfl,
        refuse_eq_ok.mpr (not_lt.mpr within)⟩⟩

theorem validateExpectedSpendCoverage_eq_ok {spend : List SpendPermission} {charges : List SpendCharge}
    (normal : ∀ permission ∈ spend, permission.token.IsNormal ∧ 0 ≤ permission.limitAtomic)
    (normal' : ∀ charge ∈ charges, charge.token.IsNormal) :
    validateExpectedSpendCoverage (spend.map publicSpend) (chargeTotals charges) = .ok () ↔ Affordable spend [] charges := by
  have facts := totals_chargeTotals charges
  have totals : ∀ total ∈ chargeTotals charges, total.token.IsNormal := by
    intro total member
    obtain ⟨source, present, same⟩ := facts.buckets total member
    have token : source.token = total.token := congrArg SpendBucket.token same
    rw [← token]
    exact normal' source present
  have each : (∀ total ∈ chargeTotals charges, checkPublicTotal (spend.map publicSpend) total = .ok ()) ↔
      ∀ total ∈ chargeTotals charges, ∃ permission, permissionOf spend total.bucket = some permission ∧
        total.amountAtomic ≤ permission.limitAtomic :=
    forall₂_congr fun total member => checkPublicTotal_eq_ok normal (totals total member)
  rw [validateExpectedSpendCoverage, forM_list_eq_ok, each, forall_chargeTotals (fun charge member => (normal' charge member).1)
    (P := fun bucket amount => ∃ permission, permissionOf spend bucket = some permission ∧ amount ≤ permission.limitAtomic)]
  simp only [Affordable, permissionFor_eq, totalOf_nil, Int.zero_add]

def CallPermission.names (request : ActionRequest) (entry : CallPermission) : Bool :=
  lower entry.target == lower request.target && (entry.selectors.map lower).contains (lower request.selector)

def FirstCovers (policy : ScopedPolicy) (request : ActionRequest) : Prop :=
  ∃ entry, policy.calls.find? (CallPermission.names request) = some entry ∧
    request.valueWei ≤ entry.maxNativeValueWei

theorem mem_normal_selectors {entry : CallPermission} {selector : String} :
    selector ∈ entry.normal.selectors ↔ selector ∈ entry.selectors.map lower := by
  rw [CallPermission.normal, List.mem_insertionSort, List.mem_dedup]

theorem matches_publicCall {entry : CallPermission} {request : ActionRequest} (accepted : entry.Acceptable)
    (formed : request.Formed) :
    (sameAddress (publicCall entry.normal).target (lower request.target) &&
      (publicCall entry.normal).selectors.any fun selector => sameSelector selector (lower request.selector)) =
      entry.names request := by
  have target : sameAddress (lower entry.target) (lower request.target) = true ↔ lower entry.target = lower request.target := by
    rw [sameAddress, sameNormalized_iff normalizeAddress_eq_ok, lower_lower, lower_lower]
    exact ⟨fun same => same.2.2, fun same => ⟨isHexText_lower accepted.target, isHexText_lower formed.target, same⟩⟩
  have selector : (entry.normal.selectors.any fun selector => sameSelector selector (lower request.selector)) = true ↔
      lower request.selector ∈ entry.selectors.map lower := by
    rw [List.any_eq_true, ← mem_normal_selectors]
    constructor
    · rintro ⟨selector, member, same⟩
      obtain ⟨source, found, rfl⟩ := List.mem_map.mp (mem_normal_selectors.mp member)
      rw [sameSelector, sameNormalized_iff normalizeSelector_eq_ok, lower_lower, lower_lower] at same
      exact same.2.2 ▸ member
    · intro member
      refine ⟨_, member, ?_⟩
      rw [sameSelector, sameNormalized_iff normalizeSelector_eq_ok]
      exact ⟨isHexText_lower formed.selector, isHexText_lower formed.selector, rfl⟩
  rw [Bool.eq_iff_iff, Bool.and_eq_true, CallPermission.names, Bool.and_eq_true, beq_iff_eq, List.contains_iff_mem]
  exact and_congr target selector

/-- The search of the public calls finds the entry that comes first in the policy itself. -/
theorem find?_publicCalls {policy : ScopedPolicy} {request : ActionRequest} (accepted : policy.Acceptable)
    (formed : request.Formed) :
    (policy.normal.calls.map publicCall).find? (fun call => sameAddress call.target (lower request.target) &&
      call.selectors.any fun selector => sameSelector selector (lower request.selector)) =
      (policy.calls.find? (CallPermission.names request)).map fun entry => publicCall entry.normal := by
  have named : ∀ entry ∈ policy.calls.map CallPermission.normal,
      (sameAddress (publicCall entry).target (lower request.target) &&
        (publicCall entry).selectors.any fun selector => sameSelector selector (lower request.selector)) =
        (entry.target == lower request.target && entry.selectors.contains (lower request.selector)) := by
    intro entry member
    obtain ⟨source, found, rfl⟩ := List.mem_map.mp member
    rw [matches_publicCall (accepted.calls source found) formed, CallPermission.names, Bool.eq_iff_iff, Bool.and_eq_true,
      Bool.and_eq_true, List.contains_iff_mem, List.contains_iff_mem, mem_normal_selectors]
    rfl
  have sorted : ∀ entry ∈ policy.normal.calls, entry ∈ policy.calls.map CallPermission.normal :=
    fun entry member => (List.perm_insertionSort _ _).mem_iff.mp member
  have shown := List.find?_congr fun entry member => named entry (sorted entry member)
  have unsorted := @find?_sortCalls
    (fun entry => entry.target == lower request.target && entry.selectors.contains (lower request.selector)) (lower request.target)
    (fun entry same => eq_of_beq (Bool.and_eq_true_iff.mp same).1) (policy.calls.map CallPermission.normal)
  have raw : policy.calls.find? ((fun entry => entry.target == lower request.target &&
      entry.selectors.contains (lower request.selector)) ∘ CallPermission.normal) =
      policy.calls.find? (CallPermission.names request) := by
    refine List.find?_congr fun entry _ => ?_
    rw [CallPermission.names, Bool.eq_iff_iff, Function.comp_apply, Bool.and_eq_true, Bool.and_eq_true,
      List.contains_iff_mem, List.contains_iff_mem, mem_normal_selectors]
    rfl
  have found := shown.trans unsorted
  rw [List.find?_map, raw] at found
  rw [List.find?_map]
  exact (congrArg (Option.map publicCall) found).trans (Option.map_map ..)

theorem checkPublicCall_eq_ok {policy : ScopedPolicy} {request : ActionRequest} {expected : ExpectedActionEvidence}
    (accepted : policy.Acceptable) (formed : request.Formed) (target : expected.target = lower request.target)
    (selector : expected.selector = lower request.selector) :
    checkPublicCall (policy.normal.calls.map publicCall) expected request.valueWei = .ok () ↔ FirstCovers policy request := by
  simp only [checkPublicCall, target, selector, find?_publicCalls accepted formed, FirstCovers]
  cases found : policy.calls.find? (CallPermission.names request) with
  | none =>
    constructor
    · rintro ⟨⟩
    · rintro ⟨_, ⟨⟩, _⟩
  | some entry =>
    have nonnegative := (accepted.calls entry (List.mem_of_find?_eq_some found)).nonnegative
    constructor
    · intro passed
      obtain ⟨value, read, within⟩ := bind_eq_ok.mp passed
      obtain rfl := (parseAtomic_decimalText nonnegative _).mp read
      exact ⟨entry, rfl, not_lt.mp (refuse_eq_ok.mp within)⟩
    · rintro ⟨_, present, within⟩
      cases present
      exact bind_eq_ok.mpr ⟨_, (parseAtomic_decimalText nonnegative _).mpr rfl, refuse_eq_ok.mpr (not_lt.mpr within)⟩

def evidenceCovers (evidence : PhaseZeroEvidence) (policy : ScopedPolicy) (request : ActionRequest) (chainId : Nat) :
    Checked Unit := do
  let withPolicy ← attachPolicyToEvidence evidence policy
  let withAction ← attachExpectedAction withPolicy request chainId
  validateCoverage withAction

/-- The charges of the request can be read, and each bucket has a permission that covers them. -/
structure Payable (policy : ScopedPolicy) (request : ActionRequest) : Prop where
  accepted : policy.Acceptable
  formed : request.Formed
  charged : request.Charged
  affordable : Affordable policy.normal.spend [] (normalAmounts request.spends)

theorem ActionRequest.Charged.nonnegative {request : ActionRequest} (charged : request.Charged) : 0 ≤ request.valueWei := by
  rw [← charged.native]
  exact totalOf_nonneg fun entry member => (normalAmounts_acceptable charged.accepted entry member).nonnegative

theorem ScopedPolicy.Acceptable.spend_normal {policy : ScopedPolicy} (accepted : policy.Acceptable) :
    ∀ permission ∈ policy.normal.spend, permission.token.IsNormal ∧ 0 ≤ permission.limitAtomic := by
  intro permission member
  obtain ⟨source, found, rfl⟩ := List.mem_map.mp ((List.perm_insertionSort _ _).mem_iff.mp member)
  exact ⟨(accepted.spend source found).1.token.isNormal, (accepted.spend source found).1.nonnegative⟩

theorem permitted_iff {policy : ScopedPolicy} {request : ActionRequest} {nowUnix : Int}
    (safe : isSafeInteger nowUnix) (before : nowUnix < policy.expiresAtUnix) :
    Permitted policy request nowUnix [] ↔
      Payable policy request ∧ ∃ entry ∈ policy.calls, entry.Covers request := by
  constructor
  · rintro ⟨valid, formed, covered, charged, -, affordable⟩
    exact ⟨⟨valid.accepted, formed, charged, affordable⟩, covered⟩
  · rintro ⟨⟨accepted, formed, charged, affordable⟩, covered⟩
    exact ⟨⟨accepted, safe, before⟩, formed, covered, charged, ⟨fun _ member => (nomatch member),
      fun _ member => (nomatch member), fun permission member => (accepted.spend_normal permission member).2⟩, affordable⟩

theorem attachExpectedAction_eq_ok {evidence result : PhaseZeroEvidence} {request : ActionRequest} {chainId : Nat} :
    attachExpectedAction evidence request chainId = .ok result ↔ request.Formed ∧ request.Charged ∧
      result = { evidence with
        status := .inProgress
        expectedAction := some ⟨chainId, lower request.target, lower request.selector, decimalText request.valueWei,
          request.spends.map SpendCharge.shown⟩ } := by
  simp only [attachExpectedAction, bind_eq_ok, refuse_eq_ok, exists_const, pure_eq_ok, not_not, not_lt]
  constructor
  · rintro ⟨-, spends, shown, native, target, address, selector, bytes, rfl⟩
    obtain ⟨accepted, rfl⟩ := (mapM_eq_ok publicCharge_eq_ok).mp shown
    obtain ⟨hex, rfl⟩ := normalizeAddress_eq_ok.mp address
    obtain ⟨hex', rfl⟩ := normalizeSelector_eq_ok.mp bytes
    rw [native_shown accepted] at native
    exact ⟨⟨hex, hex'⟩, ⟨accepted, native⟩, rfl⟩
  · rintro ⟨formed, charged, rfl⟩
    refine ⟨charged.nonnegative, _, (mapM_eq_ok publicCharge_eq_ok).mpr ⟨charged.accepted, rfl⟩, ?_, _,
      normalizeAddress_eq_ok.mpr ⟨formed.target, rfl⟩, _, normalizeSelector_eq_ok.mpr ⟨formed.selector, rfl⟩, rfl⟩
    rw [native_shown charged.accepted]
    exact charged.native

theorem evidenceCovers_eq_ok {evidence : PhaseZeroEvidence} {policy : ScopedPolicy} {request : ActionRequest}
    {chainId : Nat} :
    evidenceCovers evidence policy request chainId = .ok () ↔ Payable policy request ∧ FirstCovers policy request := by
  simp only [evidenceCovers, attachPolicyToEvidence, toPublicPolicySummary, bind_eq_ok, pure_eq_ok,
    normalizePolicy_eq_ok, attachExpectedAction_eq_ok]
  constructor
  · rintro ⟨_, ⟨_, ⟨_, ⟨accepted, rfl⟩, rfl⟩, rfl⟩, _, ⟨formed, charged, rfl⟩, covered⟩
    obtain ⟨totals, read, others⟩ := bind_eq_ok.mp covered
    obtain rfl := (normalizePublicSpends_shown charged.nonnegative charged.accepted charged.native _).mp read
    obtain ⟨done, call, spends⟩ := bind_eq_ok.mp others
    have normal : ∀ charge ∈ normalAmounts request.spends, charge.token.IsNormal := by
      intro charge member
      obtain ⟨source, found, rfl⟩ := List.mem_map.mp member
      exact (charged.accepted source found).token.isNormal
    exact ⟨⟨accepted, formed, charged, (validateExpectedSpendCoverage_eq_ok accepted.spend_normal normal).mp spends⟩,
      (checkPublicCall_eq_ok accepted formed rfl rfl).mp call⟩
  · rintro ⟨⟨accepted, formed, charged, affordable⟩, first⟩
    have normal : ∀ charge ∈ normalAmounts request.spends, charge.token.IsNormal := by
      intro charge member
      obtain ⟨source, found, rfl⟩ := List.mem_map.mp member
      exact (charged.accepted source found).token.isNormal
    refine ⟨_, ⟨_, ⟨_, ⟨accepted, rfl⟩, rfl⟩, rfl⟩, _, ⟨formed, charged, rfl⟩, bind_eq_ok.mpr ⟨_,
      (normalizePublicSpends_shown charged.nonnegative charged.accepted charged.native _).mpr rfl, bind_eq_ok.mpr ⟨(),
      (checkPublicCall_eq_ok accepted formed rfl rfl).mpr first, ?_⟩⟩⟩
    exact (validateExpectedSpendCoverage_eq_ok accepted.spend_normal normal).mpr affordable

/-- Gate and evidence agree on a request exactly when its charges are not covered at all, or an entry
written in lower case covers the call just when the first entry that names it does. -/
theorem gate_agrees_with_evidence {policy : ScopedPolicy} {request : ActionRequest} {nowUnix : Int}
    (safe : isSafeInteger nowUnix) (before : nowUnix < policy.expiresAtUnix) (evidence : PhaseZeroEvidence) (chainId : Nat) :
    (assertActionWithinPolicy policy request nowUnix [] = .ok () ↔
        evidenceCovers evidence policy request chainId = .ok ()) ↔
      (Payable policy request → ((∃ entry ∈ policy.calls, entry.Covers request) ↔ FirstCovers policy request)) := by
  rw [assertActionWithinPolicy_eq_ok, permitted_iff safe before, evidenceCovers_eq_ok, and_congr_right_iff]

/-- One entry, in lower case, that covers the call: both accept it. -/
theorem gate_agrees_on_one_entry :
    assertActionWithinPolicy (spendingPolicy [⟨.native, 10, .day⟩]) (spendingRequest 4 [⟨.native, 4, .day⟩]) 1700000000 [] =
        .ok () ↔
      evidenceCovers {} (spendingPolicy [⟨.native, 10, .day⟩]) (spendingRequest 4 [⟨.native, 4, .day⟩]) 97 = .ok () := by
  refine (gate_agrees_with_evidence (by decide) (by decide) {} 97).mpr fun _ => ⟨fun _ => ?_, fun _ => ?_⟩
  · exact ⟨⟨"0x4444444444444444444444444444444444444444", ["0xabcdef01"], 100⟩, by decide +kernel, by decide⟩
  · exact ⟨⟨"0x4444444444444444444444444444444444444444", ["0xabcdef01"], 100⟩, List.mem_singleton_self _,
      by decide +kernel, by decide +kernel, by decide, by decide⟩

/-- Two entries for one call, the first with the smaller limit: the gate lets a call pass between the
two limits, and its evidence is refused. -/
theorem gate_disagrees_on_two_entries :
    ∃ policy : ScopedPolicy, ∃ request : ActionRequest, 1700000000 < policy.expiresAtUnix ∧
      ¬(assertActionWithinPolicy policy request 1700000000 [] = .ok () ↔ evidenceCovers {} policy request 97 = .ok ()) := by
  refine ⟨{ spendingPolicy [⟨.native, 50, .day⟩] with
    calls := [⟨"0x4444444444444444444444444444444444444444", ["0xabcdef01"], 5⟩,
      ⟨"0x4444444444444444444444444444444444444444", ["0xabcdef01"], 100⟩] },
    spendingRequest 10 [⟨.native, 10, .day⟩], by decide, by decide +kernel⟩

end Bnbera.Altana
