import Bnbera.Seller.Negotiation

/-! A negotiated offer is accepted again after it was saved, and its signed text decides what it offers. -/

namespace Bnbera.Seller

open JsonText

/-- The documented behaviour: the checksum form of an address differs from it in the case of letters only. -/
class LawfulPlatform [Platform] : Prop where
  toLowerCase_getAddress : ∀ {address : Text}, isNonZeroAddress address = true →
    Platform.toLowerCase (Platform.getAddress address) = Platform.toLowerCase address

variable {N : Type}

/-! ### Members -/

theorem readQuote_value (quote : Quote N) : readQuote quote.value = some quote := rfl

theorem isString_inj {value : Option (Value N)} {text text' : Text} (told : isString value text = true)
    (told' : isString value text' = true) : text = text' := by
  simp only [isString, beq_iff_eq] at told told'
  exact Option.some.inj (told.symm.trans told')

theorem field_signed (terms : Terms) : field (terms.signed : Fields N) "deliverables" = some (str (sanitize terms.deliverables)) ∧
    field (terms.signed : Fields N) "quality_standards" = some (str (sanitize terms.qualityStandards)) :=
  ⟨rfl, rfl⟩

theorem contentOf_nodup {fields : Fields N} (distinct : (keys fields).Nodup) : (keys (contentOf fields)).Nodup :=
  distinct.sublist (List.filter_sublist.map _)

section
variable [Numbers N]

theorem terms_formed (terms : Terms) : (Tree.obj (terms.signed : Fields N)).WellFormed Scalar.IsFinite := by
  obtain ⟨deliverables, qualityStandards, criteria, required, evaluator⟩ := terms
  rcases criteria with _ | _ | ⟨first, rest⟩
  · exact ⟨(by decide : (["deliverables", "quality_standards"].map units).Nodup), trivial, trivial, trivial⟩
  · exact ⟨(by decide : (["deliverables", "quality_standards"].map units).Nodup), trivial, trivial, trivial⟩
  · refine ⟨(by decide : (["deliverables", "quality_standards", "success_criteria"].map units).Nodup), trivial, trivial, ?_, trivial⟩
    refine allItems_iff.mpr fun item member => ?_
    obtain ⟨_, _, rfl⟩ := List.mem_map.mp member
    exact trivial

section
variable [DecidableEq N]

theorem equal_eq {n n' : N} (normal : (Scalar.num n).IsNormal) (normal' : (Scalar.num n').IsNormal) (same : equal n n' = true) :
    n = n' := by
  simp only [equal, beq_iff_eq, unsigned, if_neg normal.2, if_neg normal'.2] at same
  exact same

theorem isNumber_inj {value : Option (Value N)} {n n' : N} (told : isNumber value n = true) (told' : isNumber value n' = true) :
    equal n n' = true := by
  unfold isNumber at told told'
  cases found : readNum isAny value with
  | none =>
    rw [found] at told
    cases told
  | some m =>
    rw [found] at told told'
    simp only [Option.any_some, equal, beq_iff_eq] at told told' ⊢
    exact told.symm.trans told'

end

end

section
variable [Platform]

theorem same_refl (text : Text) : same text text = true := beq_self_eq_true _

theorem same_trans {first second third : Text} (one : same first second = true) (two : same second third = true) :
    same first third = true := by
  simp only [same, beq_iff_eq] at one two ⊢
  exact one.trans two

section
variable [Numbers N]

theorem isSameAddress_str {text address : Text} (agree : same text address = true) :
    isSameAddress (some (str text : Value N)) address = .ok true := by
  show Except.ok (same text address) = _
  rw [agree]

theorem isSameAddress_inj {value : Option (Value N)} {address address' : Text} (told : isSameAddress value address = .ok true)
    (told' : isSameAddress value address' = .ok true) : same address address' = true := by
  unfold isSameAddress at told told'
  cases found : stringOrUndefined value with
  | none =>
    rw [found] at told
    cases told
  | some text =>
    rw [found] at told told'
    have first : same text address = true := Except.ok.inj told
    have second : same text address' = true := Except.ok.inj told'
    simp only [same, beq_iff_eq] at first second ⊢
    exact first.symm.trans second

end

section
variable [Integers N]

theorem contentOf_description (quote : Negotiation N) (task : Task) : contentOf (quote.description task) = quote.content task := rfl

theorem field_content (quote : Negotiation N) (task : Task) :
    field (quote.content task) "price" = some (str quote.price) ∧ field (quote.content task) "currency" = some (str quote.currency) ∧
      field (quote.content task) "chain_id" = some (num quote.chainId) ∧
      field (quote.content task) "verifying_contract" = some (str (Platform.getAddress quote.verifyingContract)) ∧
      field (quote.content task) "task" = some (str (sanitize task.task)) ∧
      field (quote.content task) "terms" = some (.obj quote.terms.signed) ∧
      field (quote.content task) "quote_expires_at" = some (num quote.quoteExpiresAt) ∧
      field (quote.content task) "negotiated_at" = some (num quote.negotiatedAt) :=
  ⟨rfl, rfl, rfl, rfl, rfl, rfl, rfl, rfl⟩

theorem externalSellerQuoteSchema_eq_some {raw quote : Quote N} (read : externalSellerQuoteSchema raw = some quote) :
    raw.isValid = true ∧ quote = { raw with identity := { raw.identity with namespaceText := trim raw.identity.namespaceText } } := by
  unfold externalSellerQuoteSchema at read
  split at read
  · next valid => exact ⟨valid, (Option.some.inj read).symm⟩
  · cases read

theorem Quote.isValid_numbers {quote : Quote N} (valid : quote.isValid = true) :
    isBetween 1 2147483647 quote.identity.chainId = true ∧ isBscChain quote.chainId = true ∧
      isTimestamp quote.issuedAtUnix = true ∧ isTimestamp quote.expiresAtUnix = true ∧
      isBetween 1 86400 quote.estimatedCompletionSeconds = true := by
  simp only [Quote.isValid, Identity.isValid, Bool.and_eq_true] at valid
  refine ⟨?_, ?_, ?_, ?_, ?_⟩ <;> simp only [valid]

theorem Quote.isValid_trimmed {quote : Quote N} (valid : quote.isValid = true) :
    ({ quote with identity := { quote.identity with namespaceText := trim quote.identity.namespaceText } } : Quote N).isValid = true := by
  unfold Quote.isValid at valid ⊢
  simp only [Bool.and_eq_true] at valid
  have identity := Identity.isValid_trimmed (valid.1.1.1.1.1.1.1.1.1.1.1.1.1.1.1.1.1.1)
  simp only [identity, valid]
  rfl

structure Negotiation.HasIntegers (quote : Negotiation N) : Prop where
  negotiatedAt : isTimestamp quote.negotiatedAt = true
  quoteExpiresAt : isTimestamp quote.quoteExpiresAt = true
  chainId : isBscChain quote.chainId = true

omit [Platform] in
theorem negotiationSchema_integers {fields : Fields N} {offer : Negotiation N} (read : negotiationSchema fields = some offer) :
    offer.HasIntegers ∧ isNonZeroAddress offer.verifyingContract = true := by
  unfold negotiationSchema at read
  iterate 11 obtain ⟨_, _, read⟩ := Option.bind_eq_some_iff.mp read
  obtain ⟨chainId, chain, read⟩ := Option.bind_eq_some_iff.mp read
  obtain ⟨contract, address, read⟩ := Option.bind_eq_some_iff.mp read
  iterate 11 obtain ⟨_, _, read⟩ := Option.bind_eq_some_iff.mp read
  obtain ⟨expires, expiring, read⟩ := Option.bind_eq_some_iff.mp read
  obtain ⟨issued, issuing, read⟩ := Option.bind_eq_some_iff.mp read
  cases Option.some.inj read
  exact ⟨⟨readNum_accepts issuing, readNum_accepts expiring, readNum_accepts chain⟩, (readText_eq_some.mp address).2⟩

end

end

variable [Numbers N]

/-! ### Saved quotes -/

section
variable [Integers N] [LawfulIntegers N]

theorem isNormal_of_isBscChain {n : N} (chain : isBscChain n = true) : (Scalar.num n).IsNormal := by
  simp only [isBscChain, Bool.or_eq_true, beq_iff_eq] at chain
  rcases chain with mainnet | testnet
  · exact isNormal_of_toInt mainnet (by decide)
  · exact isNormal_of_toInt testnet (by decide)

theorem parse_quote [Platform] [LawfulNumbers N] {quote : Quote N} (valid : quote.isValid = true) :
    parse readScalar (stringify quote.value) = some quote.value := by
  obtain ⟨identityChain, chain, issued, expires, estimated⟩ := Quote.isValid_numbers valid
  have identityKeys : keys quote.identity.fields = ["namespace", "chainId", "identityRegistry", "agentId"].map units := rfl
  have quoteKeys : keys quote.fields = quoteNames.map units := rfl
  have identityFormed : (Tree.obj quote.identity.fields).WellFormed Scalar.IsNormal :=
    ⟨identityKeys ▸ by decide, trivial, isNormal_of_isBetween identityChain (by decide), trivial, trivial, trivial⟩
  have formed : quote.value.WellFormed Scalar.IsNormal :=
    ⟨quoteKeys ▸ by decide, trivial, identityFormed, trivial, trivial, trivial, isNormal_of_isBscChain chain, trivial, trivial,
      trivial, trivial, trivial, trivial, isNormal_of_isBetween issued (by decide), isNormal_of_isBetween expires (by decide),
      isNormal_of_isBetween estimated (by decide), trivial, trivial, trivial, trivial, trivial, trivial⟩
  have plain : ∀ {names : List String}, (∀ name ∈ names, isArrayIndex (units name) = false) →
      ∀ key ∈ names.map units, isArrayIndex key = false := by
    intro names listed key member
    obtain ⟨name, inside, rfl⟩ := List.mem_map.mp member
    exact listed name inside
  have words : quote.value.All (fun _ => True) fun keys => ∀ key ∈ keys, isArrayIndex key = false :=
    ⟨quoteKeys ▸ plain (by decide), trivial, ⟨identityKeys ▸ plain (by decide), trivial, trivial, trivial, trivial, trivial⟩,
      trivial, trivial, trivial, trivial, trivial, trivial, trivial, trivial, trivial, trivial, trivial, trivial, trivial,
      trivial, trivial, trivial, trivial, trivial, trivial⟩
  rw [parse_stringify formed, arrange_own words]

end

/-! ### Signed descriptions -/

section
variable [DecidableEq N]

def returnOrder : Order := (Order.byKey.then .built).then .own

theorem returnOrder_permutes : returnOrder.Permutes := sorted_permutes.then Order.own_permutes

def returned (value : Value N) : Value N := value.arrange Scalar.norm returnOrder

theorem returned_obj {fields : Fields N} (distinct : (keys fields).Nodup) :
    ∃ fields', returned (.obj fields) = .obj fields' ∧ fields'.Perm (fields.map (Prod.map id returned)) ∧ (keys fields').Nodup := by
  have distinct' : (keys (arrangeFields Scalar.norm returnOrder fields)).Nodup := by rwa [keys_arrangeFields]
  have perm := returnOrder_permutes _ distinct'
  refine ⟨returnOrder.list (arrangeFields Scalar.norm returnOrder fields), rfl, ?_, (perm.map Prod.fst).nodup_iff.mpr distinct'⟩
  exact perm.trans (.of_eq (arrangeFields_eq_map _ _ _))

theorem field_returned {fields fields' : Fields N} (perm : fields'.Perm (fields.map (Prod.map id returned)))
    (distinct : (keys fields').Nodup) (key : String) : field fields' key = (field fields key).map returned := by
  rw [field_perm perm distinct, field_map]

theorem contentOf_perm {fields fields' : Fields N} (perm : fields'.Perm (fields.map (Prod.map id returned))) :
    (contentOf fields').Perm ((contentOf fields).map (Prod.map id returned)) := by
  have same : contentOf (fields.map (Prod.map id returned)) = (contentOf fields).map (Prod.map id returned) := by
    unfold contentOf
    rw [List.filter_map]
    rfl
  rw [← same]
  exact perm.filter _

variable [LawfulNumbers N]

theorem isNumber_returned (n : N) : isNumber (some (returned (num n))) n = true := by
  have again : unsigned (unsigned n) = unsigned n := by
    have twice := Scalar.norm_norm (Scalar.num n)
    simpa [Scalar.norm] using twice
  show (readNum isAny (some (num (unsigned n)))).any (equal · n) = true
  simp [readNum, num, isAny, equal, again]

theorem canonicalSellerJson_perm {fields fields' : Fields N} (formed : (Tree.obj fields).WellFormed Scalar.IsFinite)
    (perm : fields.Perm fields') : canonicalSellerJson (.obj fields) = canonicalSellerJson (.obj fields') := by
  have formed' : (Tree.obj fields').WellFormed Scalar.IsFinite :=
    ⟨(perm.map Prod.fst).nodup_iff.mp formed.1, allFields_iff.mpr fun field member =>
      allFields_iff.mp formed.2 field (perm.mem_iff.mpr member)⟩
  refine (canonicalSellerJson_inj formed formed').mpr ((Tree.same_iff_normal equal_scalars formed formed').mpr ?_)
  have distinct : (keys (arrangeFields Scalar.norm .byKey fields)).Nodup := by
    rw [keys_arrangeFields]
    exact formed.1
  have perm' : (arrangeFields Scalar.norm .byKey fields).Perm (arrangeFields Scalar.norm .byKey fields') := by
    rw [arrangeFields_eq_map, arrangeFields_eq_map]
    exact perm.map _
  rw [Tree.normal, Tree.normal, Tree.arrange, Tree.arrange]
  exact congrArg Tree.obj (@sortBy_congr Text _ _ (fun key => key) _ _ (fun _ _ => id) distinct perm')

theorem canonicalSellerJson_returned {content content' : Fields N} (formed : (Tree.obj content).WellFormed Scalar.IsFinite)
    (perm : content'.Perm (content.map (Prod.map id returned))) :
    canonicalSellerJson (.obj content') = canonicalSellerJson (.obj content) := by
  obtain ⟨finite, same⟩ := formed.same_arranged returnOrder_permutes
  obtain ⟨other, whole, perm', _⟩ := returned_obj formed.1
  rw [show (Tree.obj content).arrange Scalar.norm returnOrder = .obj other from whole] at finite same
  rw [← canonicalSellerJson_perm finite (perm'.trans perm.symm)]
  exact (canonicalSellerJson_inj finite formed).mpr same

end

section
variable [Platform] [Integers N]

def descriptionNames : List String :=
  ["version", "negotiated_at", "quote_expires_at", "task", "terms", "price", "currency", "chain_id", "verifying_contract",
    "negotiation_hash", "provider_sig"]

variable [LawfulIntegers N]

theorem description_formed {quote : Negotiation N} (integers : quote.HasIntegers) (task : Task) :
    (Tree.obj (quote.description task)).WellFormed Scalar.IsFinite :=
  ⟨(by decide : (descriptionNames.map units).Nodup), LawfulIntegers.isFinite_toInt LawfulIntegers.toInt_one,
    (isNormal_of_isBetween integers.negotiatedAt (by decide)).finite, (isNormal_of_isBetween integers.quoteExpiresAt (by decide)).finite,
    trivial, terms_formed quote.terms, trivial, trivial, (isNormal_of_isBscChain integers.chainId).finite, trivial, trivial, trivial,
    trivial⟩

/-! ### Negotiated quotes -/

variable [DecidableEq N]

structure Agreed (binding : Binding N) (task : Task) (offer : Negotiation N) (signer : Text) : Prop where
  integers : offer.HasIntegers
  address : isNonZeroAddress offer.verifyingContract = true
  deliverables : offer.terms.deliverables = task.deliverables
  qualityStandards : offer.terms.qualityStandards = task.qualityStandards
  chain : equal offer.chainId binding.identity.chainId = true
  contract : same offer.verifyingContract binding.commerceContract = true
  currency : same offer.currency binding.paymentToken = true
  price : exceedsPrice binding binding.identity.chainId offer.price = false
  hash : hashOf (.obj (offer.content task)) = offer.negotiationHash
  recovered : Platform.recoverMessageAddress offer.negotiationHash offer.providerSig = some signer
  provider : same signer binding.providerAddress = true

omit [LawfulIntegers N] in
theorem negotiate_eq_ok {binding : Binding N} {task : Task} {id : Text} {raw : Value N} {identity : IdentityRead} {now : Int}
    {quote : Quote N} (negotiated : negotiate binding task id raw identity now = .ok quote) :
    ∃ offer signer, Agreed binding task offer signer ∧
      externalSellerQuoteSchema (offer.saved binding task signer identity.finalizedBlock) = some quote := by
  unfold negotiate at negotiated
  obtain ⟨_, negotiated⟩ := refuseIf_bind_eq_ok.mp negotiated
  obtain ⟨reply, _, negotiated⟩ := bind_eq_ok.mp negotiated
  obtain ⟨offer, read, negotiated⟩ := bind_eq_ok.mp negotiated
  obtain ⟨_, negotiated⟩ := refuseIf_bind_eq_ok.mp negotiated
  obtain ⟨kept, negotiated⟩ := refuseIf_bind_eq_ok.mp negotiated
  obtain ⟨named, negotiated⟩ := refuseIf_bind_eq_ok.mp negotiated
  obtain ⟨price, negotiated⟩ := refuseIf_bind_eq_ok.mp negotiated
  obtain ⟨_, negotiated⟩ := refuseIf_bind_eq_ok.mp negotiated
  obtain ⟨_, negotiated⟩ := refuseIf_bind_eq_ok.mp negotiated
  obtain ⟨hash, negotiated⟩ := refuseIf_bind_eq_ok.mp negotiated
  obtain ⟨signer, recovered, negotiated⟩ := bind_eq_ok.mp negotiated
  obtain ⟨wallet, negotiated⟩ := refuseIf_bind_eq_ok.mp negotiated
  obtain ⟨_, negotiated⟩ := refuseIf_bind_eq_ok.mp negotiated
  simp only [not_or, not_not, Bool.not_eq_false] at kept named hash wallet
  obtain ⟨integers, address⟩ := negotiationSchema_integers (elim_eq_ok.mp read)
  refine ⟨offer, signer, ?_, elim_eq_ok.mp negotiated⟩
  exact {
    integers
    address
    deliverables := kept.2.2.2.1
    qualityStandards := kept.2.2.2.2
    chain := named.1
    contract := named.2.1
    currency := named.2.2
    price := Bool.eq_false_iff.mpr price
    hash
    recovered := elim_eq_ok.mp recovered
    provider := same_trans wallet.2 wallet.1 }

section
variable {binding : Binding N} {task : Task} {offer : Negotiation N} {signer finalizedBlock : Text}

theorem assertBinding_saved (agreed : Agreed binding task offer signer)
    (valid : (offer.saved binding task signer finalizedBlock).isValid = true) :
    assertBinding binding { offer.saved binding task signer finalizedBlock with
        identity := { binding.identity with namespaceText := trim binding.identity.namespaceText } } = .ok () ↔
      trim binding.identity.namespaceText = binding.identity.namespaceText := by
  obtain ⟨identityChain, _⟩ := Quote.isValid_numbers valid
  have chains : offer.chainId = binding.identity.chainId :=
    equal_eq (isNormal_of_isBscChain agreed.integers.chainId) (isNormal_of_isBetween identityChain (by decide)) agreed.chain
  have price : exceedsPrice binding offer.chainId offer.price = false := chains ▸ agreed.price
  unfold assertBinding Negotiation.saved
  rw [refuseIf_eq_ok]
  simp [agreed.provider, same_refl, equal_refl, agreed.chain, agreed.contract, agreed.currency, price]

variable [LawfulNumbers N]

/-- The signed description of a saved quote is the one of its terms. -/
theorem assertDescription_saved [LawfulPlatform] (agreed : Agreed binding task offer signer) {description : Fields N}
    (perm : description.Perm ((offer.description task).map (Prod.map id returned))) (distinct : (keys description).Nodup)
    (namespaceText : Text) :
    assertDescription { offer.saved binding task signer finalizedBlock with
      identity := { binding.identity with namespaceText } } description = .ok () := by
  have formed := description_formed agreed.integers task
  have contents := contentOf_perm perm
  have distinct' := contentOf_nodup distinct
  rw [contentOf_description] at contents
  have contentFormed : (Tree.obj (offer.content task)).WellFormed Scalar.IsFinite := by
    refine ⟨(by decide : ((descriptionNames.take 9).map units).Nodup), allFields_iff.mpr fun field member => ?_⟩
    exact allFields_iff.mp formed.2 field (List.mem_append_left _ member)
  have hash : hashOf (.obj (contentOf description)) = offer.negotiationHash := by
    rw [← agreed.hash, hashOf, canonicalSellerJson_returned contentFormed contents, hashOf]
  obtain ⟨price, currency, chain, contract, taskField, terms, expires, issued⟩ := field_content offer task
  have read := fun key => field_returned contents distinct' key
  obtain ⟨termFields, termsRead, termPerm, termDistinct⟩ := returned_obj (terms_formed (N := N) offer.terms).1
  obtain ⟨deliverables, quality⟩ := field_signed (N := N) offer.terms
  have termRead := fun key => field_returned termPerm termDistinct key
  have signature : field description "provider_sig" = some (str offer.providerSig) := by
    rw [field_returned perm distinct]
    rfl
  have negotiation : field description "negotiation_hash" = some (str offer.negotiationHash) := by
    rw [field_returned perm distinct]
    rfl
  have text : ∀ text : Text, returned (str text : Value N) = str text := fun _ => rfl
  have deliverablesRead : field (record (field (contentOf description) "terms")) "deliverables" = some (str (sanitize task.deliverables)) := by
    rw [read, terms, Option.map_some, termsRead, record, termRead, deliverables, agreed.deliverables, Option.map_some, text]
  have qualityRead : field (record (field (contentOf description) "terms")) "quality_standards" =
      some (str (sanitize task.qualityStandards)) := by
    rw [read, terms, Option.map_some, termsRead, record, termRead, quality, agreed.qualityStandards, Option.map_some, text]
  have currencySame : isSameAddress (field (contentOf description) "currency") offer.currency = .ok true := by
    rw [read, currency, Option.map_some, text]
    exact isSameAddress_str (same_refl _)
  have contractSame : isSameAddress (field (contentOf description) "verifying_contract") offer.verifyingContract = .ok true := by
    rw [read, contract, Option.map_some, text]
    exact isSameAddress_str (beq_iff_eq.mpr (LawfulPlatform.toLowerCase_getAddress agreed.address))
  unfold assertDescription Negotiation.saved
  dsimp only
  refine refuseIf_bind_eq_ok.mpr ⟨?_, bind_eq_ok.mpr ⟨signer, elim_eq_ok.mpr agreed.recovered, refuseIf_bind_eq_ok.mpr ⟨?_,
    bind_eq_ok.mpr ⟨true, currencySame, refuseIf_bind_eq_ok.mpr ⟨?_, bind_eq_ok.mpr ⟨true, contractSame,
      refuseIf_eq_ok.mpr ?_⟩⟩⟩⟩⟩⟩
  · simp [signature, negotiation, isString_str, hash]
  · simp [same_refl, read, price, text, isString_str]
  · simp [read, chain, isNumber_returned]
  · rw [deliverablesRead, qualityRead]
    simp [read, taskField, text, isString_str, expires, issued, isNumber_returned]

end

/-- A negotiated quote is accepted after it was saved exactly where the namespace of the binding has no white space around
it. -/
theorem assertQuote_negotiated [LawfulNumbers N] [LawfulPlatform] {binding : Binding N} {task : Task} {id : Text} {raw : Value N}
    {identity : IdentityRead} {now : Int} {quote : Quote N} (negotiated : negotiate binding task id raw identity now = .ok quote) :
    (∃ value, parse readScalar (stringify quote.value) = some value ∧ assertQuote binding value = .ok ()) ↔
      trim binding.identity.namespaceText = binding.identity.namespaceText := by
  obtain ⟨offer, signer, agreed, saved⟩ := negotiate_eq_ok negotiated
  obtain ⟨valid, rfl⟩ := externalSellerQuoteSchema_eq_some saved
  have valid' := Quote.isValid_trimmed valid
  have accepted : ∀ {quote : Quote N}, quote.isValid = true → (assertQuote binding quote.value = .ok () ↔
      assertBinding binding quote = .ok () ∧ ∃ parsed, parse readScalar quote.signedDescription = some parsed ∧
        assertDescription quote (record (some parsed)) = .ok ()) := by
    intro quote valid
    unfold assertQuote
    rw [readQuote_value]
    show (refuseIf (quote.isValid = false) _ >>= _) = _ ↔ _
    rw [refuseIf_bind_eq_ok, bind_eq_ok]
    simp only [valid, Bool.true_eq_false, not_false_eq_true, true_and, bind_eq_ok, elim_eq_ok]
    exact ⟨fun ⟨_, bound, rest⟩ => ⟨bound, rest⟩, fun ⟨bound, rest⟩ => ⟨(), bound, rest⟩⟩
  have formed := description_formed agreed.integers task
  obtain ⟨description, whole, perm, distinct⟩ := returned_obj formed.1
  have parsed : parse readScalar (offer.signedDescription task) = some (.obj description) :=
    (parse_canonicalSellerJson_eq formed).trans (congrArg some whole)
  rw [← assertBinding_saved agreed valid]
  constructor
  · rintro ⟨value, read, checked⟩
    cases Option.some.inj ((parse_quote valid').symm.trans read)
    exact ((accepted valid').mp checked).1
  · intro bound
    exact ⟨_, parse_quote valid', (accepted valid').mpr ⟨bound, .obj description, parsed, assertDescription_saved agreed perm distinct _⟩⟩

end

/-! ### Quotes of one description -/

section
variable [Platform] [DecidableEq N]

/-- Two quotes that offer the same, up to the case of addresses and what is left out of texts. -/
structure Agrees (first second : Quote N) : Prop where
  chainId : equal first.chainId second.chainId = true
  commerceContract : same first.commerceContract second.commerceContract = true
  paymentToken : same first.paymentToken second.paymentToken = true
  priceAtomic : first.priceAtomic = second.priceAtomic
  issuedAtUnix : equal first.issuedAtUnix second.issuedAtUnix = true
  expiresAtUnix : equal first.expiresAtUnix second.expiresAtUnix = true
  negotiationHash : first.negotiationHash = second.negotiationHash
  providerSignature : first.providerSignature = second.providerSignature
  providerAddress : same first.providerAddress second.providerAddress = true
  requestedTask : sanitize first.requestedTask = sanitize second.requestedTask
  deliverables : sanitize first.deliverables = sanitize second.deliverables
  qualityStandards : sanitize first.qualityStandards = sanitize second.qualityStandards

structure Describes (description : Fields N) (quote : Quote N) : Prop where
  providerSignature : isString (field description "provider_sig") quote.providerSignature = true
  negotiationHash : isString (field description "negotiation_hash") quote.negotiationHash = true
  provider : ∃ signer, Platform.recoverMessageAddress quote.negotiationHash quote.providerSignature = some signer ∧
    same signer quote.providerAddress = true
  price : isString (field (contentOf description) "price") quote.priceAtomic = true
  currency : isSameAddress (field (contentOf description) "currency") quote.paymentToken = .ok true
  chain : isNumber (field (contentOf description) "chain_id") quote.chainId = true
  contract : isSameAddress (field (contentOf description) "verifying_contract") quote.commerceContract = .ok true
  task : isString (field (contentOf description) "task") (sanitize quote.requestedTask) = true
  deliverables : isString (field (record (field (contentOf description) "terms")) "deliverables") (sanitize quote.deliverables) = true
  quality : isString (field (record (field (contentOf description) "terms")) "quality_standards")
    (sanitize quote.qualityStandards) = true
  expires : isNumber (field (contentOf description) "quote_expires_at") quote.expiresAtUnix = true
  issued : isNumber (field (contentOf description) "negotiated_at") quote.issuedAtUnix = true

theorem Describes.agrees {description : Fields N} {first second : Quote N} (told : Describes description first)
    (told' : Describes description second) : Agrees first second := by
  have hash := isString_inj told.negotiationHash told'.negotiationHash
  have signature := isString_inj told.providerSignature told'.providerSignature
  obtain ⟨signer, recovered, provided⟩ := told.provider
  obtain ⟨signer', recovered', provided'⟩ := told'.provider
  rw [← hash, ← signature, recovered] at recovered'
  obtain rfl := Option.some.inj recovered'
  refine ⟨isNumber_inj told.chain told'.chain, isSameAddress_inj told.contract told'.contract,
    isSameAddress_inj told.currency told'.currency, isString_inj told.price told'.price, isNumber_inj told.issued told'.issued,
    isNumber_inj told.expires told'.expires, hash, signature, ?_, isString_inj told.task told'.task,
    isString_inj told.deliverables told'.deliverables, isString_inj told.quality told'.quality⟩
  simp only [same, beq_iff_eq] at provided provided' ⊢
  exact provided.symm.trans provided'

theorem describes_of_assertDescription {quote : Quote N} {description : Fields N}
    (checked : assertDescription quote description = .ok ()) : Describes description quote := by
  unfold assertDescription at checked
  obtain ⟨signed, checked⟩ := refuseIf_bind_eq_ok.mp checked
  obtain ⟨signer, recovered, checked⟩ := bind_eq_ok.mp checked
  obtain ⟨provided, checked⟩ := refuseIf_bind_eq_ok.mp checked
  obtain ⟨currency, paid, checked⟩ := bind_eq_ok.mp checked
  obtain ⟨chained, checked⟩ := refuseIf_bind_eq_ok.mp checked
  obtain ⟨contract, contracted, checked⟩ := bind_eq_ok.mp checked
  have told := refuseIf_eq_ok.mp checked
  simp only [not_or, not_not, Bool.not_eq_false] at signed provided chained told
  obtain ⟨rfl, chain⟩ := chained
  obtain ⟨rfl, task, deliverables, quality, expires, issued⟩ := told
  exact ⟨signed.1, signed.2.1, ⟨signer, elim_eq_ok.mp recovered, provided.1⟩, provided.2, paid, chain, contracted, task, deliverables,
    quality, expires, issued⟩

variable [Integers N]

theorem assertQuote_describes {binding : Binding N} {value : Value N} {quote : Quote N} (read : readQuote value = some quote)
    (checked : assertQuote binding value = .ok ()) :
    ∃ parsed, parse readScalar quote.signedDescription = some parsed ∧ Describes (record (some parsed)) quote := by
  unfold assertQuote at checked
  rw [read] at checked
  obtain ⟨_, checked⟩ := refuseIf_bind_eq_ok.mp checked
  obtain ⟨_, _, checked⟩ := bind_eq_ok.mp checked
  obtain ⟨parsed, found, described⟩ := bind_eq_ok.mp checked
  exact ⟨parsed, elim_eq_ok.mp found, describes_of_assertDescription described⟩

def TamperEvident (binding : Binding N) : Prop :=
  ∀ (value value' : Value N) (quote quote' : Quote N), readQuote value = some quote → readQuote value' = some quote' →
    assertQuote binding value = .ok () → assertQuote binding value' = .ok () →
      quote.signedDescription = quote'.signedDescription → Agrees quote quote'

theorem tamperEvident (binding : Binding N) : TamperEvident binding := by
  intro value value' quote quote' read read' checked checked' same
  obtain ⟨parsed, found, told⟩ := assertQuote_describes read checked
  obtain ⟨parsed', found', told'⟩ := assertQuote_describes read' checked'
  rw [← same, found] at found'
  obtain rfl := Option.some.inj found'
  exact told.agrees told'

end

/-- A negotiated quote stays usable, and accepted quotes are tamper-evident, exactly where the namespace of the binding has no
white space around it. -/
theorem negotiated_offers [Platform] [LawfulPlatform] [Integers N] [LawfulIntegers N] [LawfulNumbers N] [DecidableEq N]
    {binding : Binding N} {task : Task} {id : Text} {raw : Value N} {identity : IdentityRead} {now : Int} {quote : Quote N}
    (negotiated : negotiate binding task id raw identity now = .ok quote) :
    (∃ value, parse readScalar (stringify quote.value) = some value ∧ assertQuote binding value = .ok ()) ∧ TamperEvident binding ↔
      trim binding.identity.namespaceText = binding.identity.namespaceText := by
  rw [and_iff_left (tamperEvident binding)]
  exact assertQuote_negotiated negotiated

/-! ### Samples -/

def lengthDigits (text : Text) : Text := List.replicate 62 0x30 ++ [digitUnit (text.length / 10), digitUnit text.length]

def sampleProvider : Text := units "0x1000000000000000000000000000000000000001"

def sampleContract : Text := units "0x2000000000000000000000000000000000000002"

def sampleToken : Text := units "0x3000000000000000000000000000000000000003"

/-- A platform whose addresses have no letters, and on which one provider signs. -/
instance samplePlatform : Platform where
  toLowerCase text := text
  isUrl _ := true
  keccak256 text := units "0x" ++ lengthDigits text
  sha256Hex := lengthDigits
  getAddress text := text
  recoverMessageAddress _ _ := some sampleProvider

instance : LawfulPlatform where
  toLowerCase_getAddress _ := rfl

def sampleBinding (namespaceText : Text) : Binding SmallNumber where
  identity := ⟨namespaceText, some 56, sampleContract, units "7"⟩
  providerAddress := sampleProvider
  endpoint := units "https://seller"
  resultBaseUrl := units "https://seller"
  commerceContract := sampleContract
  routerContract := sampleContract
  policyContract := sampleContract
  paymentToken := sampleToken
  maxPriceAtomic := units "9"

def sampleTask : Task := ⟨units "[a]", units "b", units "c"⟩

def sampleTerms : Terms := ⟨units "b", units "c", none, none, none⟩

/-- What the provider offers, before it is hashed. -/
def sampleDraft : Negotiation SmallNumber where
  taskDescription := sampleTask.task
  requested := sampleTerms
  requestHash := []
  responseHash := []
  negotiationHash := []
  providerSig := units "0x" ++ List.replicate 130 0x31
  chainId := some 56
  verifyingContract := sampleContract
  providerAddress := none
  terms := sampleTerms
  price := units "5"
  currency := sampleToken
  estimatedCompletionSeconds := some 60
  quoteExpiresAt := some 50
  negotiatedAt := some 10

def sampleReply : Value SmallNumber :=
  let members : Fields SmallNumber :=
    [(units "request", sampleDraft.request), (units "request_hash", str (hashOf sampleDraft.request)),
      (units "response_hash", str (hashOf sampleDraft.responseHashInput)),
      (units "negotiation_hash", str (hashOf (.obj (sampleDraft.content sampleTask)))),
      (units "provider_sig", str sampleDraft.providerSig), (units "chain_id", num sampleDraft.chainId),
      (units "verifying_contract", str sampleContract),
      (units "response", .obj [(units "accepted", .leaf (.bool true)),
        (units "terms", .obj (sampleTerms.members ++ [(units "price", str sampleDraft.price), (units "currency", str sampleToken)])),
        (units "estimated_completion_seconds", num sampleDraft.estimatedCompletionSeconds),
        (units "quote_expires_at", num sampleDraft.quoteExpiresAt), (units "negotiated_at", num sampleDraft.negotiatedAt)])]
  .obj [(units "jsonrpc", str (units "2.0")), (units "id", str (units "1")), (units "result", .obj members)]

def sampleQuote (namespaceText : Text) : Except Failure (Quote SmallNumber) :=
  negotiate (sampleBinding namespaceText) sampleTask (units "1") sampleReply ⟨sampleProvider, units "42"⟩ 10

theorem negotiated_offers_sample : ∃ quote : Quote SmallNumber, sampleQuote (units "eip155") = .ok quote ∧
    (∃ value, parse readScalar (stringify quote.value) = some value ∧ assertQuote (sampleBinding (units "eip155")) value = .ok ()) ∧
      TamperEvident (sampleBinding (units "eip155")) := by
  obtain ⟨quote, negotiated⟩ : ∃ quote, sampleQuote (units "eip155") = .ok quote := isOk_iff.mp (by decide +kernel)
  exact ⟨quote, negotiated, (negotiated_offers negotiated).mpr (by decide)⟩

/-- Where white space stands around the namespace of a binding, no negotiated quote is accepted later. -/
theorem negotiated_offers_broken : ∃ quote : Quote SmallNumber, sampleQuote (units " eip155 ") = .ok quote ∧
    ¬∃ value, parse readScalar (stringify quote.value) = some value ∧
      assertQuote (sampleBinding (units " eip155 ")) value = .ok () := by
  obtain ⟨quote, negotiated⟩ : ∃ quote, sampleQuote (units " eip155 ") = .ok quote := isOk_iff.mp (by decide +kernel)
  exact ⟨quote, negotiated, fun accepted => absurd ((assertQuote_negotiated negotiated).mp accepted) (by decide)⟩

end Bnbera.Seller
