import Bnbera.Altana.Permitted

namespace Bnbera.Altana

section
variable {Moment Window : Type} [DecidableEq Window]

structure Passed (Moment : Type) where
  moment : Moment
  request : ActionRequest

/-- The charges of the passed requests that fall, each by the window of its own label, into the
windows of a moment. -/
def chargedBefore (window : PermissionPeriod → Moment → Window) (history : List (Passed Moment)) (moment : Moment) :
    List SpendCharge :=
  history.flatMap fun earlier => (normalAmounts earlier.request.spends).filter fun charge =>
    window charge.period earlier.moment = window charge.period moment

def Books (window : PermissionPeriod → Moment → Window) (history : List (Passed Moment)) (moment : Moment)
    (usage : List CumulativeSpend) : Prop :=
  ∀ bucket, totalOf (inBucket bucket) (normalAmounts usage) = totalOf (inBucket bucket) (chargedBefore window history moment)

/-- Requests accepted one after the other, each against the usage before it. -/
inductive SpendRun (policy : ScopedPolicy) (window : PermissionPeriod → Moment → Window) : List (Passed Moment) → Prop
  | start : SpendRun policy window []
  | next {history : List (Passed Moment)} {moment : Moment} {request : ActionRequest} (nowUnix : Int)
      (usage : List CumulativeSpend) (earlier : SpendRun policy window history) (books : Books window history moment usage)
      (passed : assertActionWithinPolicy policy request nowUnix usage = .ok ()) :
      SpendRun policy window (history ++ [⟨moment, request⟩])

def spentIn (window : Moment → Window) (now : Window) (counts : SpendCharge → Bool) (history : List (Passed Moment)) :
    Int :=
  ((history.filter fun passed => window passed.moment = now).map fun passed =>
    totalOf counts (normalAmounts passed.request.spends)).sum

def ofToken (token : SpendToken) (charge : SpendCharge) : Bool := charge.token == token

/-- Every token that the request spends is limited in the policy for one period only, the one on the
charge, and no permission of that bucket is below the first one. -/
def Unsplit (policy : ScopedPolicy) (request : ActionRequest) : Prop :=
  ∀ charge ∈ normalAmounts request.spends, charge.amountAtomic ≠ 0 →
    ∀ permission ∈ policy.normal.spend, permission.token = charge.token →
      permission.period = charge.period ∧
        ∀ first ∈ permissionOf policy.normal.spend permission.bucket, first.limitAtomic ≤ permission.limitAtomic

instance (policy : ScopedPolicy) (request : ActionRequest) : Decidable (Unsplit policy request) :=
  inferInstanceAs (Decidable (∀ charge ∈ _, _ → ∀ permission ∈ _, _ → _ ∧ ∀ first ∈ permissionOf _ _, _))

def Named (policy : ScopedPolicy) (request : ActionRequest) : Prop :=
  ∃ entry ∈ policy.calls, lower entry.target = lower request.target ∧
    lower request.selector ∈ entry.selectors.map lower ∧ 0 ≤ request.valueWei ∧
    request.valueWei ≤ entry.maxNativeValueWei

theorem CallPermission.Covers.named {policy : ScopedPolicy} {request : ActionRequest} {entry : CallPermission}
    (covers : entry.Covers request) (member : entry ∈ policy.calls) : Named policy request := by
  obtain ⟨target, selector, value⟩ := covers
  refine ⟨entry, member, by rw [target, lower_lower], List.mem_map.mpr ⟨_, selector, lower_lower _⟩, value⟩

theorem SpendRun.named {policy : ScopedPolicy} {window : PermissionPeriod → Moment → Window}
    {history : List (Passed Moment)} (run : SpendRun policy window history) :
    ∀ passed ∈ history, Named policy passed.request := by
  induction run with
  | start => exact fun _ member => (nomatch member)
  | @next history moment request nowUnix usage earlier books passed ih =>
    intro other member
    rcases List.mem_append.mp member with before | last
    · exact ih other before
    · rw [List.mem_singleton.mp last]
      obtain ⟨entry, found, covers⟩ := (assertActionWithinPolicy_eq_ok.mp passed).covered
      exact covers.named found

variable {window : PermissionPeriod → Moment → Window} {history : List (Passed Moment)}

theorem spentIn_cons (period : Moment → Window) (now : Window) (counts : SpendCharge → Bool) (passed : Passed Moment)
    (rest : List (Passed Moment)) : spentIn period now counts (passed :: rest) =
      (if period passed.moment = now then totalOf counts (normalAmounts passed.request.spends) else 0) +
        spentIn period now counts rest := by
  unfold spentIn
  rw [List.filter_cons]
  by_cases inside : period passed.moment = now
  · rw [if_pos inside, if_pos (decide_eq_true inside), List.map_cons, List.sum_cons]
  · have outside : ¬decide (period passed.moment = now) = true := fun equal => inside (of_decide_eq_true equal)
    rw [if_neg inside, if_neg outside, Int.zero_add]

theorem spentIn_next (period : Moment → Window) (now : Window) (counts : SpendCharge → Bool) (passed : Passed Moment) :
    spentIn period now counts (history ++ [passed]) = spentIn period now counts history +
      if period passed.moment = now then totalOf counts (normalAmounts passed.request.spends) else 0 := by
  induction history with
  | nil =>
    have empty : spentIn period now counts [] = 0 := rfl
    rw [List.nil_append, spentIn_cons, empty, Int.add_comm]
  | cons first rest ih => rw [List.cons_append, spentIn_cons, spentIn_cons, ih, Int.add_assoc]

/-- What was charged before in a bucket is what the requests of the window of its label charged. -/
theorem totalOf_chargedBefore (bucket : SpendBucket) (moment : Moment) :
    totalOf (inBucket bucket) (chargedBefore window history moment) =
      spentIn (window bucket.period) (window bucket.period moment) (inBucket bucket) history := by
  induction history with
  | nil => rfl
  | cons passed rest ih =>
    have unfolded : chargedBefore window (passed :: rest) moment =
        ((normalAmounts passed.request.spends).filter fun charge =>
          window charge.period passed.moment = window charge.period moment) ++ chargedBefore window rest moment := rfl
    have first : totalOf (inBucket bucket) ((normalAmounts passed.request.spends).filter fun charge =>
        window charge.period passed.moment = window charge.period moment) =
        if window bucket.period passed.moment = window bucket.period moment then
          totalOf (inBucket bucket) (normalAmounts passed.request.spends) else 0 := by
      unfold totalOf
      rw [List.filter_filter]
      have label : ∀ charge, inBucket bucket charge = true → charge.period = bucket.period := by
        intro charge same
        exact congrArg SpendBucket.period (eq_of_beq same)
      split
      · rename_i inside
        congr 2
        refine List.filter_congr fun charge _ => ?_
        by_cases same : inBucket bucket charge = true
        · rw [label charge same, decide_eq_true inside, Bool.and_true]
        · rw [Bool.eq_false_of_not_eq_true same, Bool.false_and]
      · rename_i outside
        have nothing : (normalAmounts passed.request.spends).filter (fun charge => inBucket bucket charge &&
            decide (window charge.period passed.moment = window charge.period moment)) = [] := by
          rw [List.filter_eq_nil_iff]
          intro charge _ both
          rw [Bool.and_eq_true] at both
          have inside := of_decide_eq_true both.2
          rw [label charge both.1] at inside
          exact outside inside
        rw [nothing]
        rfl
    rw [unfolded, totalOf_append, first, ih, spentIn_cons]

variable {policy : ScopedPolicy}

theorem totalOf_eq_zero {counts : SpendCharge → Bool} {entries : List SpendCharge}
    (none : ∀ entry ∈ entries, counts entry = true → entry.amountAtomic = 0) : totalOf counts entries = 0 := by
  induction entries with
  | nil => rfl
  | cons entry rest ih =>
    obtain ⟨first, later⟩ := List.forall_mem_cons.mp none
    rw [totalOf_cons, ih later]
    split
    · rw [first ‹_›, Int.add_zero]
    · rfl

/-- No window of a run holds more in a bucket than the first permission of the bucket allows. -/
theorem SpendRun.bucket_within (run : SpendRun policy window history) {bucket : SpendBucket} {first : SpendPermission}
    (found : permissionOf policy.normal.spend bucket = some first) (positive : 0 ≤ first.limitAtomic) (now : Window) :
    spentIn (window bucket.period) now (inBucket bucket) history ≤ first.limitAtomic := by
  induction run with
  | start => exact positive
  | @next history moment request nowUnix usage earlier books passed ih =>
    have permitted := assertActionWithinPolicy_eq_ok.mp passed
    rw [spentIn_next]
    split
    · rename_i inside
      by_cases charged : ∃ charge ∈ normalAmounts request.spends, charge.bucket = bucket
      · obtain ⟨charge, member, same⟩ := charged
        obtain ⟨permission, present, within⟩ := permitted.affordable charge member
        rw [permissionFor_eq, same, found] at present
        cases present
        have before := books bucket
        rw [totalOf_chargedBefore] at before
        dsimp only at inside ⊢
        rw [inside] at before
        rw [same, before] at within
        exact within
      · have nothing : totalOf (inBucket bucket) (normalAmounts request.spends) = 0 :=
          totalOf_eq_zero fun entry member same => absurd ⟨entry, member, eq_of_beq same⟩ charged
        rw [nothing, Int.add_zero]
        exact ih
    · rw [Int.add_zero]
      exact ih

theorem permissionOf_some {spend : List SpendPermission} {permission : SpendPermission} (member : permission ∈ spend) :
    ∃ first ∈ spend, permissionOf spend permission.bucket = some first := by
  have present : (permissionOf spend permission.bucket).isSome = true :=
    List.find?_isSome.mpr ⟨permission, member, beq_self_eq_true _⟩
  obtain ⟨first, found⟩ := Option.isSome_iff_exists.mp present
  exact ⟨first, List.mem_of_find?_eq_some found, found⟩

/-- A token that is charged under one label is charged in one bucket. -/
theorem spentIn_ofToken {period : PermissionPeriod} {token : SpendToken} {now : Window}
    (labelled : ∀ passed ∈ history, ∀ charge ∈ normalAmounts passed.request.spends, charge.token = token →
      charge.amountAtomic ≠ 0 → charge.period = period) :
    spentIn (window period) now (ofToken token) history = spentIn (window period) now (inBucket ⟨token, period⟩) history := by
  unfold spentIn
  congr 1
  refine List.map_congr_left fun passed member => ?_
  have labelled := labelled passed (List.mem_filter.mp member).1
  generalize normalAmounts passed.request.spends = charges at labelled
  induction charges with
  | nil => rfl
  | cons charge rest ih =>
    obtain ⟨first, later⟩ := List.forall_mem_cons.mp labelled
    rw [totalOf_cons, totalOf_cons, ih later]
    congr 1
    by_cases zero : charge.amountAtomic = 0
    · rw [zero, ite_self, ite_self]
    · by_cases same : charge.token = token
      · have label := first same zero
        have both : inBucket ⟨token, period⟩ charge = true := by
          rw [inBucket, SpendCharge.bucket, same, label]
          exact beq_self_eq_true _
        rw [both, ofToken, same, beq_self_eq_true]
      · have other : inBucket ⟨token, period⟩ charge = false := by
          rw [inBucket, beq_eq_false_iff_ne]
          exact fun equal => same (congrArg SpendBucket.token equal)
        rw [other, ofToken, beq_eq_false_iff_ne.mpr same]

theorem spentIn_eq_zero {period : Moment → Window} {now : Window} {counts : SpendCharge → Bool}
    (none : ∀ passed ∈ history, ∀ charge ∈ normalAmounts passed.request.spends, counts charge = true →
      charge.amountAtomic = 0) : spentIn period now counts history = 0 := by
  induction history with
  | nil => rfl
  | cons passed rest ih =>
    obtain ⟨first, later⟩ := List.forall_mem_cons.mp none
    rw [spentIn_cons, ih later, Int.add_zero]
    split
    · exact totalOf_eq_zero first
    · rfl

/-- Each request of a run names a call that covers its value, and where every token that is spent has
one period, the one on its charges, no window of a permission holds more than its limit. -/
theorem SpendRun.within_limits {normal : ScopedPolicy} (run : SpendRun policy window history)
    (accepted : normalizePolicy policy = .ok normal) :
    (∀ passed ∈ history, Named policy passed.request) ∧
      ((∀ passed ∈ history, Unsplit policy passed.request) → ∀ permission ∈ normal.spend, ∀ now,
        spentIn (window permission.period) now (ofToken permission.token) history ≤ permission.limitAtomic) := by
  obtain ⟨acceptable, rfl⟩ := normalizePolicy_eq_ok.mp accepted
  have nonnegative : ∀ permission ∈ policy.normal.spend, 0 ≤ permission.limitAtomic := by
    intro permission member
    obtain ⟨source, present, rfl⟩ := List.mem_map.mp ((List.perm_insertionSort _ _).mem_iff.mp member)
    exact (acceptable.spend source present).1.nonnegative
  refine ⟨run.named, fun unsplit permission member now => ?_⟩
  obtain ⟨first, inSpend, found⟩ := permissionOf_some member
  by_cases charged : ∃ passed ∈ history, ∃ charge ∈ normalAmounts passed.request.spends,
      charge.token = permission.token ∧ charge.amountAtomic ≠ 0
  · obtain ⟨passed, present, charge, counted, same, nonzero⟩ := charged
    have smallest := (unsplit passed present charge counted nonzero permission member same.symm).2 first found
    have bound := run.bucket_within found (nonnegative first inSpend) now
    have labelled : spentIn (window permission.period) now (ofToken permission.token) history =
        spentIn (window permission.period) now (inBucket permission.bucket) history :=
      spentIn_ofToken fun other inside entry among token amount =>
        (unsplit other inside entry among amount permission member token.symm).1.symm
    rw [labelled]
    exact bound.trans smallest
  · have nothing : spentIn (window permission.period) now (ofToken permission.token) history = 0 := by
      refine spentIn_eq_zero fun passed present charge counted same => ?_
      by_contra nonzero
      exact charged ⟨passed, present, charge, counted, eq_of_beq same, nonzero⟩
    rw [nothing]
    exact nonnegative permission member

end

def spendingPolicy (spend : List SpendPermission) : ScopedPolicy where
  chainId := 97
  adminAddress := "0x1111111111111111111111111111111111111111"
  walletAddress := "0x2222222222222222222222222222222222222222"
  sessionPublicAddress := "0x3333333333333333333333333333333333333333"
  calls := [⟨"0x4444444444444444444444444444444444444444", ["0xabcdef01"], 100⟩]
  spend := spend
  expiresAtUnix := 1700003600

def spendingRequest (valueWei : Int) (spends : List SpendCharge) : ActionRequest where
  target := "0x4444444444444444444444444444444444444444"
  selector := "0xabcdef01"
  valueWei := valueWei
  spends := spends

/-- Two requests of 4 and 6 wei on a limit of 10 a day. -/
theorem SpendRun.within_limits_of_day :
    spentIn (fun _ : Nat => ()) () (ofToken .native)
      [⟨1, spendingRequest 4 [⟨.native, 4, .day⟩]⟩, ⟨2, spendingRequest 6 [⟨.native, 6, .day⟩]⟩] ≤ 10 := by
  have first : SpendRun (spendingPolicy [⟨.native, 10, .day⟩]) (fun _ (_ : Nat) => ())
      [⟨1, spendingRequest 4 [⟨.native, 4, .day⟩]⟩] :=
    .next 1700000000 [] .start (fun _ => rfl) (by decide +kernel)
  have run : SpendRun (spendingPolicy [⟨.native, 10, .day⟩]) (fun _ (_ : Nat) => ())
      [⟨1, spendingRequest 4 [⟨.native, 4, .day⟩]⟩, ⟨2, spendingRequest 6 [⟨.native, 6, .day⟩]⟩] :=
    .next 1700000000 [⟨.native, 4, .day⟩] first (fun _ => rfl) (by decide +kernel)
  have accepted : normalizePolicy (spendingPolicy [⟨.native, 10, .day⟩]) = .ok (spendingPolicy [⟨.native, 10, .day⟩]) := by
    decide +kernel
  exact (run.within_limits accepted).2 (by decide +kernel) ⟨.native, 10, .day⟩ (by decide +kernel) ()

/-- A request that labels half of its native charges with the day and half with the week spends twice
the limit of the day. -/
theorem SpendRun.split_labels :
    ∃ history : List (Passed Nat),
      SpendRun (spendingPolicy [⟨.native, 10, .day⟩, ⟨.native, 10, .week⟩]) (fun _ _ => ()) history ∧
      normalizePolicy (spendingPolicy [⟨.native, 10, .day⟩, ⟨.native, 10, .week⟩]) =
        .ok (spendingPolicy [⟨.native, 10, .day⟩, ⟨.native, 10, .week⟩]) ∧
      ¬∀ permission ∈ (spendingPolicy [⟨.native, 10, .day⟩, ⟨.native, 10, .week⟩]).spend,
        spentIn (fun _ => ()) () (ofToken permission.token) history ≤ permission.limitAtomic := by
  refine ⟨[⟨1, spendingRequest 20 [⟨.native, 10, .day⟩, ⟨.native, 10, .week⟩]⟩], ?_, by decide +kernel, by decide +kernel⟩
  exact .next 1700000000 [] .start (fun _ => rfl) (by decide +kernel)

end Bnbera.Altana
