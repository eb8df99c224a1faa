import Bnbera.Altana.Normal

namespace Bnbera.Altana

theorem isHexText_lower {length : Nat} {text : String} (accepted : isHexText length text = true) :
    isHexText length (lower text) = true := by
  unfold isHexText at accepted ⊢
  rw [lower_toList]
  split at accepted
  · rename_i digits chars
    have zero : Char.toLower '0' = '0' := rfl
    have letter : Char.toLower 'x' = 'x' := rfl
    simp only [Bool.and_eq_true, chars, List.map_cons, zero, letter, List.length_map] at accepted ⊢
    exact ⟨accepted.1, all_isHexDigit_lower accepted.2⟩
  · cases accepted

theorem isHexText_starts {length : Nat} {text : String} (accepted : isHexText length text = true) :
    ∃ digits, text.toList = '0' :: 'x' :: digits := by
  unfold isHexText at accepted
  split at accepted
  · exact ⟨_, ‹_›⟩
  · cases accepted

theorem SpendToken.Acceptable.normal {token : SpendToken} (accepted : token.Acceptable) : token.normal.Acceptable := by
  cases token with
  | native => trivial
  | address text => exact isHexText_lower accepted

@[simp] theorem SpendToken.normal_normal (token : SpendToken) : token.normal.normal = token.normal := by
  cases token with
  | native => rfl
  | address text => exact congrArg SpendToken.address (lower_lower text)

theorem SpendToken.text_inj {a b : SpendToken} (first : a.Acceptable) (second : b.Acceptable)
    (same : a.text = b.text) : a = b := by
  cases a with
  | native =>
    cases b with
    | native => rfl
    | address text =>
      obtain ⟨digits, chars⟩ := isHexText_starts second
      have letters : "native".toList = text.toList := congrArg String.toList same
      rw [chars] at letters
      exact absurd (List.cons.inj letters).1 (by decide)
  | address text =>
    cases b with
    | native =>
      obtain ⟨digits, chars⟩ := isHexText_starts first
      have letters : text.toList = "native".toList := congrArg String.toList same
      rw [chars] at letters
      exact absurd (List.cons.inj letters).1 (by decide)
    | address other => exact congrArg SpendToken.address same

theorem PermissionPeriod.last_inj : ∀ {a b : PermissionPeriod},
    a.text.toList.getLast? = b.text.toList.getLast? → a = b := by
  intro a b
  cases a <;> cases b <;> decide

theorem SpendBucket.key_toList (bucket : SpendBucket) :
    bucket.key.toList = bucket.token.text.toList ++ ':' :: bucket.period.text.toList := by
  simp only [SpendBucket.key, String.toList_append, List.append_assoc]
  rfl

theorem SpendBucket.key_inj {a b : SpendBucket} (first : a.token.Acceptable) (second : b.token.Acceptable)
    (same : a.key = b.key) : a = b := by
  have chars : a.key.toList = b.key.toList := by rw [same]
  rw [key_toList, key_toList] at chars
  have ends := congrArg List.getLast? chars
  have last : ∀ (front : List Char) (period : PermissionPeriod),
      (front ++ ':' :: period.text.toList).getLast? = period.text.toList.getLast? := by
    intro front period
    rw [List.getLast?_append]
    cases period <;> rfl
  rw [last, last] at ends
  have period := PermissionPeriod.last_inj ends
  rw [period] at chars
  have token := SpendToken.text_inj first second (String.toList_inj.mp (List.append_cancel_right chars))
  cases a
  cases b
  cases token
  cases period
  rfl

@[simp] theorem totalOf_nil (counts : SpendCharge → Bool) : totalOf counts [] = 0 := rfl

@[simp] theorem totalOf_cons (counts : SpendCharge → Bool) (entry : SpendCharge) (rest : List SpendCharge) :
    totalOf counts (entry :: rest) = (if counts entry then entry.amountAtomic else 0) + totalOf counts rest := by
  unfold totalOf
  rw [List.filter_cons]
  split <;> simp only [List.map_cons, List.sum_cons, Int.zero_add]

@[simp] theorem totalOf_append (counts : SpendCharge → Bool) (entries others : List SpendCharge) :
    totalOf counts (entries ++ others) = totalOf counts entries + totalOf counts others := by
  simp only [totalOf, List.filter_append, List.map_append, List.sum_append]

theorem totalOf_congr {counts counts' : SpendCharge → Bool} {entries : List SpendCharge}
    (same : ∀ entry ∈ entries, counts entry = counts' entry) : totalOf counts entries = totalOf counts' entries := by
  rw [totalOf, totalOf, List.filter_congr same]

theorem totalOf_nonneg {counts : SpendCharge → Bool} {entries : List SpendCharge}
    (nonnegative : ∀ entry ∈ entries, 0 ≤ entry.amountAtomic) : 0 ≤ totalOf counts entries := by
  induction entries with
  | nil => rw [totalOf_nil]
  | cons entry rest ih =>
    obtain ⟨first, later⟩ := List.forall_mem_cons.mp nonnegative
    have rest := ih later
    rw [totalOf_cons]
    split <;> omega

def keyed (key : String) (entry : SpendCharge) : Bool := entry.bucket.key == key

theorem addCharge_total (key : String) (totals : List SpendCharge) (charge : SpendCharge) :
    totalOf (keyed key) (addCharge totals charge) =
      totalOf (keyed key) totals + if keyed key charge then charge.amountAtomic else 0 := by
  induction totals with
  | nil => rw [addCharge, totalOf_cons, totalOf_nil, Int.add_comm]
  | cons total rest ih =>
    rw [addCharge]
    split
    · rename_i same
      have kept : keyed key { charge with amountAtomic := total.amountAtomic + charge.amountAtomic } = keyed key charge :=
        rfl
      have other : keyed key total = keyed key charge := by rw [keyed, keyed, same]
      rw [totalOf_cons, totalOf_cons, kept, other]
      dsimp only
      split <;> omega
    · rw [totalOf_cons, totalOf_cons, ih]
      omega

theorem addCharge_keys (totals : List SpendCharge) (charge : SpendCharge) :
    (addCharge totals charge).map (·.bucket.key) =
      if charge.bucket.key ∈ totals.map (·.bucket.key) then totals.map (·.bucket.key)
      else totals.map (·.bucket.key) ++ [charge.bucket.key] := by
  induction totals with
  | nil => rfl
  | cons total rest ih =>
    rw [addCharge]
    by_cases same : total.bucket.key = charge.bucket.key
    · have member : charge.bucket.key ∈ (total :: rest).map (·.bucket.key) := same ▸ List.mem_cons_self
      rw [if_pos same, if_pos member, List.map_cons, List.map_cons, same]
      rfl
    · have other : ¬charge.bucket.key = total.bucket.key := fun equal => same equal.symm
      rw [if_neg same, List.map_cons, ih]
      simp only [List.map_cons, List.mem_cons, other, false_or]
      split <;> rfl

theorem addCharge_bucket {totals : List SpendCharge} {charge total : SpendCharge}
    (member : total ∈ addCharge totals charge) :
    total.bucket = charge.bucket ∨ ∃ earlier ∈ totals, earlier.bucket = total.bucket := by
  induction totals with
  | nil =>
    rw [addCharge, List.mem_singleton] at member
    exact .inl (by rw [member])
  | cons head rest ih =>
    rw [addCharge] at member
    split at member
    · rcases List.mem_cons.mp member with rfl | later
      · exact .inl rfl
      · exact .inr ⟨total, List.mem_cons_of_mem _ later, rfl⟩
    · rcases List.mem_cons.mp member with rfl | later
      · exact .inr ⟨total, List.mem_cons_self, rfl⟩
      · exact (ih later).imp_right fun ⟨earlier, found, same⟩ => ⟨earlier, List.mem_cons_of_mem _ found, same⟩

/-- The totals after some of the charges: one for each key, worth what the charges under it are. -/
structure Totals (charges totals : List SpendCharge) : Prop where
  keys : (totals.map (·.bucket.key)).Nodup
  amounts : ∀ key, totalOf (keyed key) totals = totalOf (keyed key) charges
  buckets : ∀ total ∈ totals, ∃ charge ∈ charges, charge.bucket = total.bucket
  covers : ∀ charge ∈ charges, charge.bucket.key ∈ totals.map (·.bucket.key)

theorem Totals.add {charges totals : List SpendCharge} (before : Totals charges totals) (charge : SpendCharge) :
    Totals (charges ++ [charge]) (addCharge totals charge) where
  keys := by
    rw [addCharge_keys]
    split
    · exact before.keys
    · exact List.nodup_append.mpr ⟨before.keys, List.nodup_singleton _, fun key member other found same => by
        rw [List.mem_singleton] at found
        exact absurd (found ▸ same ▸ member) ‹_›⟩
  amounts key := by
    rw [addCharge_total, totalOf_append, before.amounts, totalOf_cons, totalOf_nil, Int.add_zero]
  buckets total member := by
    rcases addCharge_bucket member with same | ⟨earlier, found, same⟩
    · exact ⟨charge, List.mem_append_right _ (List.mem_singleton_self _), same.symm⟩
    · obtain ⟨source, present, equal⟩ := before.buckets earlier found
      exact ⟨source, List.mem_append_left _ present, equal.trans same⟩
  covers source member := by
    rw [addCharge_keys]
    rcases List.mem_append.mp member with earlier | last
    · have covered := before.covers source earlier
      split
      · exact covered
      · exact List.mem_append_left _ covered
    · rw [List.mem_singleton.mp last]
      split
      · assumption
      · exact List.mem_append_right _ (List.mem_singleton_self _)

theorem totals_foldl {charges totals : List SpendCharge} (before : Totals charges totals) (rest : List SpendCharge) :
    Totals (charges ++ rest) (rest.foldl addCharge totals) := by
  induction rest generalizing charges totals with
  | nil => rw [List.append_nil]; exact before
  | cons charge rest ih =>
    have after := ih (before.add charge)
    rw [List.append_assoc] at after
    exact after

theorem totals_chargeTotals (charges : List SpendCharge) : Totals charges (chargeTotals charges) :=
  @totals_foldl [] []
    ⟨List.nodup_nil, fun _ => rfl, fun _ member => (nomatch member), fun _ member => (nomatch member)⟩ charges

theorem totalOf_keyed_of_nodup {totals : List SpendCharge} (nodup : (totals.map (·.bucket.key)).Nodup)
    {total : SpendCharge} (member : total ∈ totals) : totalOf (keyed total.bucket.key) totals = total.amountAtomic := by
  induction totals with
  | nil => cases member
  | cons head rest ih =>
    rw [List.map_cons, List.nodup_cons] at nodup
    rw [totalOf_cons]
    rcases List.mem_cons.mp member with rfl | later
    · have none : totalOf (keyed total.bucket.key) rest = 0 := by
        have nothing : rest.filter (keyed total.bucket.key) = [] := by
          rw [List.filter_eq_nil_iff]
          intro other found same
          exact nodup.1 (eq_of_beq same ▸ List.mem_map_of_mem (f := (·.bucket.key)) found)
        rw [totalOf, nothing]
        rfl
      rw [none, keyed, beq_self_eq_true, if_pos rfl, Int.add_zero]
    · have other : keyed total.bucket.key head = false := by
        rw [keyed, beq_eq_false_iff_ne]
        exact fun same => nodup.1 (same ▸ List.mem_map_of_mem (f := (·.bucket.key)) later)
      rw [other, ih nodup.2 later]
      simp only [Bool.false_eq_true, if_false, Int.zero_add]

def inBucket (bucket : SpendBucket) (entry : SpendCharge) : Bool := entry.bucket == bucket

/-- A check of every total is a check of the sum of every bucket that is charged. -/
theorem forall_chargeTotals {charges : List SpendCharge} (accepted : ∀ charge ∈ charges, charge.token.Acceptable)
    {P : SpendBucket → Int → Prop} :
    (∀ total ∈ chargeTotals charges, P total.bucket total.amountAtomic) ↔
      ∀ charge ∈ charges, P charge.bucket (totalOf (inBucket charge.bucket) charges) := by
  have facts := totals_chargeTotals charges
  have sum : ∀ charge ∈ charges, totalOf (keyed charge.bucket.key) charges = totalOf (inBucket charge.bucket) charges := by
    intro charge member
    refine totalOf_congr fun entry found => ?_
    have iff : entry.bucket.key = charge.bucket.key ↔ entry.bucket = charge.bucket :=
      ⟨fun same => SpendBucket.key_inj (accepted entry found) (accepted charge member) same, fun same => by rw [same]⟩
    rw [keyed, inBucket, Bool.eq_iff_iff, beq_iff_eq, beq_iff_eq, iff]
  constructor
  · intro each charge member
    obtain ⟨total, found, same⟩ := List.mem_map.mp (facts.covers charge member)
    obtain ⟨source, present, bucket⟩ := facts.buckets total found
    have equal : total.bucket = charge.bucket := by
      rw [← bucket]
      exact SpendBucket.key_inj (accepted source present) (accepted charge member) (by rw [bucket]; exact same)
    have checked := each total found
    rw [← totalOf_keyed_of_nodup facts.keys found, facts.amounts, equal, sum charge member] at checked
    exact checked
  · intro each total member
    obtain ⟨source, present, bucket⟩ := facts.buckets total member
    have checked := each source present
    rw [← sum source present, ← facts.amounts, bucket, totalOf_keyed_of_nodup facts.keys member] at checked
    exact checked

structure ActionRequest.Formed (request : ActionRequest) : Prop where
  target : isHexText 40 request.target = true
  selector : isHexText 8 request.selector = true

def CallPermission.Covers (entry : CallPermission) (request : ActionRequest) : Prop :=
  entry.target = lower request.target ∧ lower request.selector ∈ entry.selectors ∧ 0 ≤ request.valueWei ∧
    request.valueWei ≤ entry.maxNativeValueWei

theorem isCallAllowed_eq_ok {policy : ScopedPolicy} {request : ActionRequest} {allowed : Bool} :
    isCallAllowed policy request = .ok allowed ↔
      request.Formed ∧ (allowed = true ↔ ∃ entry ∈ policy.calls, entry.Covers request) := by
  have some : ∀ target selector : String, (policy.calls.any fun entry =>
      entry.target == target && entry.selectors.contains selector && decide (0 ≤ request.valueWei) &&
        decide (request.valueWei ≤ entry.maxNativeValueWei)) = true ↔ ∃ entry ∈ policy.calls,
      entry.target = target ∧ selector ∈ entry.selectors ∧ 0 ≤ request.valueWei ∧
        request.valueWei ≤ entry.maxNativeValueWei := by
    intro target selector
    simp only [List.any_eq_true, Bool.and_eq_true, beq_iff_eq, List.contains_iff_mem, decide_eq_true_eq, and_assoc]
  simp only [isCallAllowed, bind_eq_ok, pure_eq_ok]
  constructor
  · rintro ⟨target, address, selector, bytes, rfl⟩
    obtain ⟨hex, rfl⟩ := normalizeAddress_eq_ok.mp address
    obtain ⟨hex', rfl⟩ := normalizeSelector_eq_ok.mp bytes
    exact ⟨⟨hex, hex'⟩, some _ _⟩
  · rintro ⟨formed, iff⟩
    refine ⟨_, normalizeAddress_eq_ok.mpr ⟨formed.target, rfl⟩, _, normalizeSelector_eq_ok.mpr ⟨formed.selector, rfl⟩, ?_⟩
    rw [Bool.eq_iff_iff, iff, some]
    rfl

structure ScopedPolicy.ValidAt (policy : ScopedPolicy) (nowUnix : Int) : Prop where
  accepted : policy.Acceptable
  safe : isSafeInteger nowUnix
  before : nowUnix < policy.expiresAtUnix

theorem assertPolicyValidAt_eq_ok {policy result : ScopedPolicy} {nowUnix : Int} :
    assertPolicyValidAt policy nowUnix = .ok result ↔ policy.ValidAt nowUnix ∧ result = policy.normal := by
  simp only [assertPolicyValidAt, bind_eq_ok, refuse_eq_ok, exists_const, pure_eq_ok, normalizePolicy_eq_ok]
  constructor
  · rintro ⟨_, ⟨accepted, rfl⟩, passed, rfl⟩
    obtain ⟨safe, before⟩ := not_or.mp passed
    exact ⟨⟨accepted, not_not.mp safe, not_le.mp before⟩, rfl⟩
  · rintro ⟨⟨accepted, safe, before⟩, rfl⟩
    exact ⟨_, ⟨accepted, rfl⟩, not_or.mpr ⟨not_not.mpr safe, not_le.mpr before⟩, rfl⟩

theorem assertCallAllowed_eq_ok {policy : ScopedPolicy} {request : ActionRequest} {nowUnix : Int} {done : Unit} :
    assertCallAllowed policy request nowUnix = .ok done ↔
      policy.ValidAt nowUnix ∧ request.Formed ∧ ∃ entry ∈ policy.calls, entry.Covers request := by
  simp only [assertCallAllowed, bind_eq_ok, refuse_eq_ok, assertPolicyValidAt_eq_ok, isCallAllowed_eq_ok]
  constructor
  · rintro ⟨_, ⟨valid, rfl⟩, allowed, ⟨formed, iff⟩, passed⟩
    exact ⟨valid, formed, iff.mp (Bool.eq_true_of_not_eq_false passed)⟩
  · rintro ⟨valid, formed, covered⟩
    exact ⟨_, ⟨valid, rfl⟩, true, ⟨formed, fun _ => covered, fun _ => rfl⟩, Bool.true_eq_false_eq_False⟩

def normalAmounts (entries : List SpendCharge) : List SpendCharge := entries.map SpendCharge.normal

/-- The charges of a request can be read, and the native ones add up to the value of the call. -/
structure ActionRequest.Charged (request : ActionRequest) : Prop where
  accepted : ∀ charge ∈ request.spends, charge.Acceptable
  native : totalOf (fun charge => charge.token == .native) (normalAmounts request.spends) = request.valueWei

structure Counted (spend : List SpendPermission) (usage : List CumulativeSpend) : Prop where
  accepted : ∀ entry ∈ usage, entry.Acceptable
  permitted : ∀ entry ∈ normalAmounts usage, permissionFor spend entry ≠ none
  within : ∀ permission ∈ spend, totalOf (inBucket permission.bucket) (normalAmounts usage) ≤ permission.limitAtomic

def Affordable (spend : List SpendPermission) (usage charges : List SpendCharge) : Prop :=
  ∀ charge ∈ charges, ∃ permission, permissionFor spend charge = some permission ∧
    totalOf (inBucket charge.bucket) usage + totalOf (inBucket charge.bucket) charges ≤ permission.limitAtomic

def permissionOf (spend : List SpendPermission) (bucket : SpendBucket) : Option SpendPermission :=
  spend.find? fun candidate => candidate.bucket == bucket

theorem permissionFor_eq (spend : List SpendPermission) (charge : SpendCharge) :
    permissionFor spend charge = permissionOf spend charge.bucket := rfl

theorem checkTotal_eq_ok {spend : List SpendPermission} {usage : List CumulativeSpend} {charge : SpendCharge} :
    checkTotal spend usage charge = .ok () ↔ ∃ permission, permissionOf spend charge.bucket = some permission ∧
      totalOf (inBucket charge.bucket) usage + charge.amountAtomic ≤ permission.limitAtomic := by
  rw [checkTotal, permissionFor_eq]
  cases found : permissionOf spend charge.bucket with
  | none => exact ⟨fun failed => (nomatch failed), fun ⟨_, present, _⟩ => (nomatch present)⟩
  | some permission =>
    dsimp only
    rw [refuse_eq_ok, not_lt]
    constructor
    · intro within
      exact ⟨permission, rfl, within⟩
    · rintro ⟨_, present, within⟩
      cases present
      exact within

theorem normalAmounts_acceptable {entries : List SpendCharge} (accepted : ∀ entry ∈ entries, entry.Acceptable) :
    ∀ entry ∈ normalAmounts entries, entry.Acceptable := by
  intro entry member
  obtain ⟨source, found, rfl⟩ := List.mem_map.mp member
  exact ⟨(accepted source found).nonnegative, (accepted source found).token.normal⟩

theorem checkTotals_eq_ok {spend : List SpendPermission} {usage charges : List SpendCharge}
    (accepted : ∀ charge ∈ charges, charge.token.Acceptable) :
    (chargeTotals charges).forM (checkTotal spend usage) = .ok () ↔ Affordable spend usage charges := by
  rw [forM_list_eq_ok]
  simp only [checkTotal_eq_ok]
  exact forall_chargeTotals accepted (P := fun bucket amount => ∃ permission, permissionOf spend bucket = some permission ∧
    totalOf (inBucket bucket) usage + amount ≤ permission.limitAtomic)

theorem sameSpendBucket_eq (permission : SpendPermission) : sameSpendBucket permission = inBucket permission.bucket := by
  funext charge
  rw [sameSpendBucket, inBucket, Bool.eq_iff_iff, beq_iff_eq, beq_iff_eq, eq_comm]

structure Permitted (policy : ScopedPolicy) (request : ActionRequest) (nowUnix : Int)
    (usage : List CumulativeSpend) : Prop where
  valid : policy.ValidAt nowUnix
  formed : request.Formed
  covered : ∃ entry ∈ policy.calls, entry.Covers request
  charged : request.Charged
  counted : Counted policy.normal.spend usage
  affordable : Affordable policy.normal.spend (normalAmounts usage) (normalAmounts request.spends)

theorem assertActionWithinPolicy_eq_ok {policy : ScopedPolicy} {request : ActionRequest} {nowUnix : Int}
    {usage : List CumulativeSpend} :
    assertActionWithinPolicy policy request nowUnix usage = .ok () ↔ Permitted policy request nowUnix usage := by
  simp only [assertActionWithinPolicy, bind_eq_ok, refuse_eq_ok, exists_const, assertPolicyValidAt_eq_ok,
    assertCallAllowed_eq_ok, normalizePolicy_eq_ok, forM_list_eq_ok, sameSpendBucket_eq]
  constructor
  · rintro ⟨_, ⟨valid, rfl⟩, ⟨_, formed, covered⟩, _, ⟨_, rfl⟩, charges, read, entries, counted, native, permitted, within,
      affordable⟩
    obtain ⟨charged, rfl⟩ := (mapM_eq_ok normalizeAmount_eq_ok).mp read
    obtain ⟨accepted, rfl⟩ := (mapM_eq_ok normalizeAmount_eq_ok).mp counted
    exact ⟨valid, formed, covered, ⟨charged, not_not.mp native⟩,
      ⟨accepted, permitted, fun permission member => not_lt.mp (within permission member)⟩,
      (checkTotals_eq_ok fun charge member => (normalAmounts_acceptable charged charge member).token).mp
        (forM_list_eq_ok.mpr affordable)⟩
  · rintro ⟨valid, formed, covered, charged, counted, affordable⟩
    refine ⟨_, ⟨valid, rfl⟩, ⟨valid, formed, covered⟩, _, ⟨valid.accepted, rfl⟩, _,
      (mapM_eq_ok normalizeAmount_eq_ok).mpr ⟨charged.accepted, rfl⟩, _,
      (mapM_eq_ok normalizeAmount_eq_ok).mpr ⟨counted.accepted, rfl⟩, not_not.mpr charged.native, counted.permitted,
      fun permission member => not_lt.mpr (counted.within permission member), ?_⟩
    exact forM_list_eq_ok.mp ((checkTotals_eq_ok fun charge member =>
      (normalAmounts_acceptable charged.accepted charge member).token).mpr affordable)

section
variable {α : Type} (r : α → α → Prop) [DecidableRel r]

theorem filter_insertionSort {p : α → Bool} (alike : ∀ a b, p a = true → p b = true → r a b) (items : List α) :
    (items.insertionSort r).filter p = items.filter p := by
  have ordered : (items.filter p).Pairwise r := by
    refine List.pairwise_of_forall_mem_list fun a first b second => ?_
    exact alike a b (List.mem_filter.mp first).2 (List.mem_filter.mp second).2
  have kept := (List.sublist_insertionSort ordered List.filter_sublist).filter p
  rw [List.filter_filter] at kept
  simp only [Bool.and_self] at kept
  refine (kept.eq_of_length ?_).symm
  exact ((List.perm_insertionSort r items).filter p).length_eq.symm

theorem find?_insertionSort {p : α → Bool} (alike : ∀ a b, p a = true → p b = true → r a b) (items : List α) :
    (items.insertionSort r).find? p = items.find? p := by
  rw [← List.head?_filter, ← List.head?_filter, filter_insertionSort r alike]

end

def callOrder (left right : CallPermission) : Prop := left.target ≤ right.target

instance : DecidableRel callOrder := fun left right => inferInstanceAs (Decidable (left.target ≤ right.target))

instance : Std.Total callOrder := ⟨fun left right => String.le_total left.target right.target⟩

instance : IsTrans CallPermission callOrder := ⟨fun _ _ _ first second => String.le_trans first second⟩

def spendOrder (left right : SpendPermission) : Prop := left.bucket.key ≤ right.bucket.key

instance : DecidableRel spendOrder := fun left right => inferInstanceAs (Decidable (left.bucket.key ≤ right.bucket.key))

instance : Std.Total spendOrder := ⟨fun left right => String.le_total left.bucket.key right.bucket.key⟩

instance : IsTrans SpendPermission spendOrder := ⟨fun _ _ _ first second => String.le_trans first second⟩

theorem sortCalls_eq (calls : List CallPermission) : sortCalls calls = calls.insertionSort callOrder := rfl

theorem sortSpend_eq (spend : List SpendPermission) : sortSpend spend = spend.insertionSort spendOrder := rfl

theorem find?_sortCalls {p : CallPermission → Bool} {target : String} (alike : ∀ entry, p entry = true → entry.target = target)
    (calls : List CallPermission) : (sortCalls calls).find? p = calls.find? p :=
  find?_insertionSort callOrder (fun a b first second => by
    have same : a.target = b.target := (alike a first).trans (alike b second).symm
    unfold callOrder
    exact same ▸ String.le_refl a.target) calls

end Bnbera.Altana
