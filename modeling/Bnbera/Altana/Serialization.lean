import Bnbera.Altana.Coverage
import Bnbera.CanonicalJson.Splitting
import Bnbera.CanonicalJson.Stringify
import Bnbera.Altana.Permitted

namespace Bnbera.Altana

def callJson (entry : CallPermission) : Json :=
  .obj [("target", .str entry.target), ("selectors", .arr (entry.selectors.map Json.str)),
    ("maxNativeValueWei", .str (decimalText entry.maxNativeValueWei))]

def spendJson (entry : SpendPermission) : Json :=
  .obj [("token", .str entry.token.text), ("limitAtomic", .str (decimalText entry.limitAtomic)),
    ("period", .str entry.period.text)]

def keyField : Option String → List (String × Json)
  | none => []
  | some sessionPublicKey => [("sessionPublicKey", .str sessionPublicKey)]

def policyJson (normalized : ScopedPolicy) : Json :=
  .obj ([("chainId", .num (decimalText normalized.chainId)), ("adminAddress", .str normalized.adminAddress),
    ("walletAddress", .str normalized.walletAddress), ("sessionPublicAddress", .str normalized.sessionPublicAddress)] ++
    keyField normalized.sessionPublicKey ++
    [("calls", .arr (normalized.calls.map callJson)), ("spend", .arr (normalized.spend.map spendJson)),
    ("expiresAtUnix", .num (decimalText normalized.expiresAtUnix))])

def serializePolicy (policy : ScopedPolicy) : Checked String := do
  let normalized ← normalizePolicy policy
  return stringifyJson (policyJson normalized)

theorem serializePolicy_eq_ok {policy : ScopedPolicy} {text : String} :
    serializePolicy policy = .ok text ↔ policy.Acceptable ∧ text = stringifyJson (policyJson policy.normal) := by
  simp only [serializePolicy, bind_eq_ok, normalizePolicy_eq_ok, pure_eq_ok]
  constructor
  · rintro ⟨_, ⟨accepted, rfl⟩, rfl⟩
    exact ⟨accepted, rfl⟩
  · rintro ⟨accepted, rfl⟩
    exact ⟨_, ⟨accepted, rfl⟩, rfl⟩

theorem isNumberText_decimalText {value : Int} (nonnegative : 0 ≤ value) : isNumberText (decimalText value) = true := by
  obtain ⟨amount, rfl⟩ := Int.eq_ofNat_of_zero_le nonnegative
  exact isNumberText_repr amount

theorem decimalText_inj {a b : Int} (first : 0 ≤ a) (second : 0 ≤ b) (same : decimalText a = decimalText b) : a = b := by
  rw [← bigintOf_decimalText first, same, bigintOf_decimalText second]

theorem wellFormedItems_map {α : Type} {render : α → Json} (each : ∀ item, (render item).wellFormed = true)
    (items : List α) : wellFormedItems (items.map render) = true := by
  induction items with
  | nil => rfl
  | cons item rest ih => rw [List.map_cons, wellFormedItems, each item, ih, Bool.and_self]

theorem callJson_wellFormed (entry : CallPermission) : (callJson entry).wellFormed = true := by
  have selectors := wellFormedItems_map Json.str_wellFormed entry.selectors
  simp only [callJson, Json.wellFormed, wellFormedFields, selectors, Bool.and_true, decide_eq_true_eq,
    List.map_cons, List.map_nil]
  decide

theorem spendJson_wellFormed (entry : SpendPermission) : (spendJson entry).wellFormed = true := by
  simp only [spendJson, Json.wellFormed, wellFormedFields, Bool.and_true, decide_eq_true_eq,
    List.map_cons, List.map_nil]
  decide

theorem policyJson_wellFormed {normalized : ScopedPolicy} (positive : 0 ≤ normalized.expiresAtUnix) :
    (policyJson normalized).wellFormed = true := by
  have chain : isNumberText (decimalText normalized.chainId) = true := isNumberText_decimalText (Int.natCast_nonneg _)
  have expiry := isNumberText_decimalText positive
  have calls := wellFormedItems_map callJson_wellFormed normalized.calls
  have spend := wellFormedItems_map spendJson_wellFormed normalized.spend
  cases key : normalized.sessionPublicKey with
  | none =>
    simp only [policyJson, keyField, key, List.cons_append, List.nil_append, Json.wellFormed, wellFormedFields, chain,
      expiry, calls, spend, Bool.and_true, decide_eq_true_eq,
    List.map_cons, List.map_nil]
    decide
  | some value =>
    simp only [policyJson, keyField, key, List.cons_append, List.nil_append, Json.wellFormed, wellFormedFields, chain,
      expiry, calls, spend, Bool.and_true, decide_eq_true_eq,
    List.map_cons, List.map_nil]
    decide

theorem map_inj_on {α β : Type} {f : α → β} {xs ys : List α} (inj : ∀ x ∈ xs, ∀ y ∈ ys, f x = f y → x = y)
    (same : xs.map f = ys.map f) : xs = ys := by
  induction xs generalizing ys with
  | nil => exact (List.map_eq_nil_iff.mp same.symm).symm
  | cons x xs ih =>
    cases ys with
    | nil => cases same
    | cons y ys =>
      rw [List.map_cons, List.map_cons, List.cons.injEq] at same
      rw [inj x List.mem_cons_self y List.mem_cons_self same.1, ih (fun a inXs b inYs =>
        inj a (List.mem_cons_of_mem _ inXs) b (List.mem_cons_of_mem _ inYs)) same.2]

theorem callJson_inj {a b : CallPermission} (first : 0 ≤ a.maxNativeValueWei) (second : 0 ≤ b.maxNativeValueWei)
    (same : callJson a = callJson b) : a = b := by
  simp only [callJson, Json.obj.injEq, List.cons.injEq, Prod.mk.injEq, Json.str.injEq, Json.arr.injEq, true_and,
    and_true] at same
  obtain ⟨target, selectors, limit⟩ := same
  cases a
  cases b
  obtain rfl := target
  obtain rfl := map_inj_on (fun _ _ _ _ equal => Json.str.inj equal) selectors
  obtain rfl := decimalText_inj first second limit
  rfl

theorem PermissionPeriod.text_inj : ∀ {a b : PermissionPeriod}, a.text = b.text → a = b := by
  intro a b
  cases a <;> cases b <;> decide

theorem spendJson_inj {a b : SpendPermission} (first : 0 ≤ a.limitAtomic ∧ a.token.Acceptable)
    (second : 0 ≤ b.limitAtomic ∧ b.token.Acceptable) (same : spendJson a = spendJson b) : a = b := by
  simp only [spendJson, Json.obj.injEq, List.cons.injEq, Prod.mk.injEq, Json.str.injEq, true_and, and_true] at same
  obtain ⟨token, limit, period⟩ := same
  cases a
  cases b
  obtain rfl := SpendToken.text_inj first.2 second.2 token
  obtain rfl := decimalText_inj first.1 second.1 limit
  obtain rfl := PermissionPeriod.text_inj period
  rfl

/-- The numbers of a policy are not negative and its tokens are accepted, as those of a normal policy are. -/
structure Printable (policy : ScopedPolicy) : Prop where
  expiry : 0 ≤ policy.expiresAtUnix
  calls : ∀ entry ∈ policy.calls, 0 ≤ entry.maxNativeValueWei
  spend : ∀ entry ∈ policy.spend, 0 ≤ entry.limitAtomic ∧ entry.token.Acceptable

theorem keyField_inj {a b : Option String} {field field' : String × Json} {rest rest' : List (String × Json)}
    (calls : field.1 = "calls") (calls' : field'.1 = "calls")
    (same : keyField a ++ field :: rest = keyField b ++ field' :: rest') : a = b ∧ field = field' ∧ rest = rest' := by
  cases a with
  | none =>
    cases b with
    | none => exact ⟨rfl, List.cons.inj same⟩
    | some value =>
      have key : field.1 = "sessionPublicKey" := congrArg Prod.fst (List.cons.inj same).1
      exact absurd (calls.symm.trans key) (by decide)
  | some value =>
    cases b with
    | none =>
      have key : "sessionPublicKey" = field'.1 := congrArg Prod.fst (List.cons.inj same).1
      exact absurd (calls'.symm.trans key.symm) (by decide)
    | some other =>
      obtain ⟨first, others⟩ := List.cons.inj same
      exact ⟨congrArg some (Json.str.inj (congrArg Prod.snd first)), List.cons.inj others⟩

theorem policyJson_inj {a b : ScopedPolicy} (first : Printable a) (second : Printable b)
    (same : policyJson a = policyJson b) : a = b := by
  simp only [policyJson, Json.obj.injEq, List.cons_append, List.nil_append, List.cons.injEq,
    Prod.mk.injEq, Json.num.injEq, Json.str.injEq, true_and] at same
  obtain ⟨chain, admin, wallet, session, others⟩ := same
  obtain ⟨key, calls, others⟩ := keyField_inj rfl rfl others
  simp only [List.cons.injEq, Prod.mk.injEq, Json.num.injEq, Json.arr.injEq, true_and, and_true] at calls others
  obtain ⟨spend, expiry⟩ := others
  have chain := decimalText_inj (Int.natCast_nonneg _) (Int.natCast_nonneg _) chain
  have expiry := decimalText_inj first.expiry second.expiry expiry
  have calls := map_inj_on (fun x inXs y inYs => callJson_inj (first.calls x inXs) (second.calls y inYs)) calls
  have spend := map_inj_on (fun x inXs y inYs => spendJson_inj (first.spend x inXs) (second.spend y inYs)) spend
  cases a
  cases b
  simp only [ScopedPolicy.mk.injEq]
  exact ⟨Int.ofNat.inj chain, admin, wallet, session, key, calls, spend, expiry⟩

theorem ScopedPolicy.Acceptable.printable {policy : ScopedPolicy} (accepted : policy.Acceptable) :
    Printable policy.normal where
  expiry := accepted.expiry.2.le
  calls entry member := by
    obtain ⟨source, found, rfl⟩ := List.mem_map.mp ((List.perm_insertionSort _ _).mem_iff.mp member)
    exact (accepted.calls source found).nonnegative
  spend entry member := by
    obtain ⟨source, found, rfl⟩ := List.mem_map.mp ((List.perm_insertionSort _ _).mem_iff.mp member)
    exact ⟨(accepted.spend source found).1.nonnegative, (accepted.spend source found).1.token.normal⟩

theorem serializePolicy_eq_iff {policy other : ScopedPolicy} (accepted : policy.Acceptable) (accepted' : other.Acceptable) :
    serializePolicy policy = serializePolicy other ↔ policy.normal = other.normal := by
  rw [serializePolicy_eq_ok.mpr ⟨accepted, rfl⟩, serializePolicy_eq_ok.mpr ⟨accepted', rfl⟩, Except.ok.injEq]
  constructor
  · intro same
    exact policyJson_inj accepted.printable accepted'.printable (stringifyJson_inj
      (policyJson_wellFormed accepted.printable.expiry) (policyJson_wellFormed accepted'.printable.expiry) same)
  · intro same
    rw [same]

end Bnbera.Altana
