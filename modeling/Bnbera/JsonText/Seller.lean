import Mathlib.Data.List.Pairwise
import Bnbera.JsonText.Scalars

/-! The canonical JSON text that a seller signs, and the text that is hashed for its results. -/

namespace Bnbera.JsonText

variable {N : Type} [Numbers N] [DecidableEq N]

/-- `JSON.stringify` of a leaf. -/
def Scalar.stringify : Scalar N → Text
  | .num value => if Numbers.isFinite value then Numbers.toText value else nullWord
  | other => other.write quote

def stringify (value : Tree (Scalar N)) : Text := value.print quote Scalar.stringify

def sorted (value : Tree (Scalar N)) : Tree (Scalar N) := value.arrange id (Order.byKey.then .built)

def canonicalSellerJson (value : Tree (Scalar N)) : Text := escapeAscii (stringify (sorted value))

/-- The text that a seller makes: every object has its members in ascending order, by the code points of their keys. -/
def sellerJson (value : Tree (Scalar N)) : Text :=
  (value.arrange Scalar.norm (.by codePoints)).print asciiQuoting.quote (Scalar.write asciiQuoting.quote)

structure SellerFaithful (value : Tree (Scalar N)) : Prop where
  ascii : ∀ c ∈ canonicalSellerJson value, c.val < 0x80
  ascending : ∃ written : Tree (Scalar N), parseTree readScalar (canonicalSellerJson value) = some written ∧
    written.All (fun _ => True) (List.Pairwise (· < ·))
  parsed : ∃ parsed : Tree (Scalar N), parse readScalar (canonicalSellerJson value) = some parsed ∧ parsed.Same Scalar.Same value ∧
    canonicalSellerJson parsed = canonicalSellerJson value
  identity : ∀ other : Tree (Scalar N), other.WellFormed Scalar.IsFinite →
    (canonicalSellerJson value = canonicalSellerJson other ↔ value.Same Scalar.Same other)
  hashed : ∀ {H : Type} (hash : Text → H), hash (canonicalSellerJson value) = hash (sellerJson value)

def KeysAscend (keys : List Text) : Prop :=
  ∀ key ∈ keys, ∀ other ∈ keys, isArrayIndex key = true →
    (isArrayIndex other = true → decimal key < decimal other → key < other) ∧ (isArrayIndex other = false → key < other)

def KeysAgree (keys : List Text) : Prop :=
  ∀ key ∈ keys, ∀ other ∈ keys, key < other → codePoints key < codePoints other

section
variable {γ : Type} {fields : List (Text × γ)}

/-- The keys of an object that was built from sorted entries. -/
theorem emitted_keys (distinct : (keys fields).Nodup) :
    (keys ((Order.byKey.then .built).list fields)).Perm (keys fields) ∧
      (keys ((Order.byKey.then .built).list fields)).Pairwise fun key other =>
        (isArrayIndex other = true → isArrayIndex key = true ∧ decimal key ≤ decimal other) ∧
          (isArrayIndex key = false → key ≤ other) := by
  have perm := (Order.byKey_permutes.then Order.built_permutes) fields distinct
  refine ⟨perm.map Prod.fst, ?_⟩
  have distinct' : (keys (Order.byKey.list fields)).Nodup := ((Order.byKey_permutes fields distinct).map Prod.fst).nodup_iff.mpr distinct
  have list : (Order.byKey.then .built).list fields = ownFields (Order.byKey.list fields) := Order.built_list distinct'
  rw [list, ownFields, keys, List.pairwise_map, List.pairwise_append]
  have index : ∀ field ∈ sortBy decimal ((Order.byKey.list fields).filter fun field => isArrayIndex field.1), isArrayIndex field.1 = true :=
    fun field member => (List.mem_filter.mp (sortBy_perm.mem_iff.mp member)).2
  have other : ∀ field ∈ (Order.byKey.list fields).filter fun field => !isArrayIndex field.1, isArrayIndex field.1 = false := by
    intro field member
    simpa using (List.mem_filter.mp member).2
  refine ⟨?_, ?_, ?_⟩
  · refine List.Pairwise.imp_of_mem ?_ sortBy_sorted
    intro first second member member' le
    exact ⟨fun _ => ⟨index first member, le⟩, fun none => absurd (index first member) (by rw [none]; decide)⟩
  · have ordered : (Order.byKey.list fields).Pairwise fun a b => a.1 ≤ b.1 :=
      @sortBy_sorted Text _ _ (fun key => key) fields
    refine List.Pairwise.imp_of_mem ?_ (ordered.filter _)
    intro first second member member' le
    exact ⟨fun found => absurd found (by rw [other second member']; decide), fun _ => le⟩
  · intro first member second member'
    exact ⟨fun found => absurd found (by rw [other second member']; decide),
      fun none => absurd (index first member) (by rw [none]; decide)⟩

theorem emitted_ascends (distinct : (keys fields).Nodup) (ascend : KeysAscend (keys fields)) :
    (keys ((Order.byKey.then .built).list fields)).Pairwise (· < ·) := by
  obtain ⟨perm, ordered⟩ := emitted_keys distinct
  refine List.Pairwise.imp_of_mem ?_ (ordered.and (perm.nodup_iff.mpr distinct))
  rintro key other member member' ⟨⟨index, word⟩, different⟩
  have given := perm.mem_iff.mp member
  have given' := perm.mem_iff.mp member'
  cases second : isArrayIndex other with
  | true =>
    obtain ⟨first, le⟩ := index second
    have less : decimal key < decimal other := lt_of_le_of_ne le fun same => different (decimal_inj first second same)
    exact (ascend key given other given' first).1 second less
  | false =>
    cases first : isArrayIndex key with
    | true => exact (ascend key given other given' first).2 second
    | false => exact lt_of_le_of_ne (word first) different

theorem emitted_reveals (distinct : (keys fields).Nodup) (ascending : (keys ((Order.byKey.then .built).list fields)).Pairwise (· < ·))
    (agreeing : (keys ((Order.byKey.then .built).list fields)).Pairwise fun key other => codePoints key ≤ codePoints other) :
    KeysAscend (keys fields) ∧ KeysAgree (keys fields) := by
  obtain ⟨perm, ordered⟩ := emitted_keys distinct
  have either : ∀ key ∈ keys fields, ∀ other ∈ keys fields, key ≠ other →
      (key < other ∧ codePoints key ≤ codePoints other) ∨
        other < key ∧ (isArrayIndex key = true → isArrayIndex other = true ∧ decimal other ≤ decimal key) := by
    let before (key other : Text) : Prop := (key < other ∧ codePoints key ≤ codePoints other) ∧
      (isArrayIndex other = true → isArrayIndex key = true ∧ decimal key ≤ decimal other)
    have pairwise : (keys ((Order.byKey.then .built).list fields)).Pairwise fun key other => before key other ∨ before other key := by
      refine ((ascending.and agreeing).and ordered).imp ?_
      rintro key other ⟨less, numbers, _⟩
      exact .inl ⟨less, numbers⟩
    have symm : Std.Symm fun key other => before key other ∨ before other key := ⟨fun _ _ => Or.symm⟩
    intro key given other given' different
    rcases pairwise.forall (perm.mem_iff.mpr given) (perm.mem_iff.mpr given') different with first | ⟨less, numbers⟩
    · exact .inl first.1
    · exact .inr ⟨less.1, numbers⟩
  refine ⟨fun key given other given' index => ⟨fun index' less => ?_, fun word => ?_⟩, fun key given other given' less => ?_⟩
  · rcases either key given other given' (by rintro rfl; exact lt_irrefl _ less) with ⟨before, _⟩ | ⟨_, numbers⟩
    · exact before
    · exact absurd less (numbers index).2.not_gt
  · rcases either key given other given' (by rintro rfl; rw [index] at word; cases word) with ⟨before, _⟩ | ⟨_, numbers⟩
    · exact before
    · rw [(numbers index).1] at word
      cases word
  · rcases either key given other given' less.ne with ⟨_, le⟩ | ⟨before, _⟩
    · exact lt_of_le_of_ne le fun same => less.ne (codePoints_injective same)
    · exact absurd before less.asymm

end

theorem narrow_word : (∀ c ∈ nullWord, c.val < 0x7f) ∧ ∀ value, ∀ c ∈ boolWord value, c.val < 0x7f := by
  constructor
  · simp [nullWord]
  · rintro (_ | _) <;> simp [boolWord]

theorem isNumberUnit_narrow {c : CodeUnit} (number : isNumberUnit c = true) : c.val < 0x7f := by
  simp only [isNumberUnit, Bool.or_eq_true, Bool.and_eq_true, decide_eq_true_eq, or_assoc] at number
  rcases number with bounds | rfl | rfl | rfl | rfl | rfl
  · omega
  all_goals decide

theorem escapeAscii_leaf [LawfulNumbers N] {value : Scalar N} (finite : value.IsFinite) :
    escapeAscii value.stringify = value.norm.write asciiQuoting.quote := by
  rw [Scalar.write_norm]
  cases value with
  | null => exact escapeAscii_eq_self narrow_word.1
  | bool value => exact escapeAscii_eq_self (narrow_word.2 value)
  | num n =>
    have number : Numbers.isFinite n = true := finite
    rw [Scalar.stringify, if_pos number, Scalar.write]
    exact escapeAscii_eq_self fun c member => isNumberUnit_narrow ((LawfulNumbers.toText_units number).2 c member)
  | str text => rfl

theorem escapeAscii_joined (texts : List Text) : escapeAscii (joined texts) = joined (texts.map escapeAscii) := by
  induction texts with
  | nil => rfl
  | cons first rest ih =>
    cases rest with
    | nil => rw [joined_singleton, List.map_cons, List.map_nil, joined_singleton]
    | cons second rest =>
      rw [joined_cons_cons, escapeAscii_append, escapeAscii_cons (by decide), ih]
      rw [List.map_cons, List.map_cons, List.map_cons, joined_cons_cons]

theorem escapeAscii_between {first last : CodeUnit} (narrow : first.val < 0x7f) (narrow' : last.val < 0x7f) (text : Text) :
    escapeAscii (first :: text ++ [last]) = first :: escapeAscii text ++ [last] := by
  rw [escapeAscii_append, escapeAscii_cons narrow, escapeAscii_cons narrow']
  rfl

mutual

theorem escapeAscii_print [LawfulNumbers N] : ∀ {value : Tree (Scalar N)}, value.WellFormed Scalar.IsFinite →
    escapeAscii (value.print quote Scalar.stringify) =
      (value.arrange Scalar.norm .asIs).print asciiQuoting.quote (Scalar.write asciiQuoting.quote)
  | .leaf value, finite => escapeAscii_leaf finite
  | .arr items, formed => by
    rw [Tree.print, escapeAscii_between (by decide) (by decide), escapeAscii_joined, escapeAscii_printItems formed,
      Tree.arrange, Tree.print]
  | .obj fields, formed => by
    rw [Tree.print, escapeAscii_between (by decide) (by decide), escapeAscii_joined, escapeAscii_printFields formed.2,
      Tree.arrange, Order.asIs_list, Tree.print]

theorem escapeAscii_printItems [LawfulNumbers N] : ∀ {items : List (Tree (Scalar N))}, AllItems Scalar.IsFinite List.Nodup items →
    (printItems quote Scalar.stringify items).map escapeAscii =
      printItems asciiQuoting.quote (Scalar.write asciiQuoting.quote) (arrangeItems Scalar.norm .asIs items)
  | [], _ => rfl
  | _ :: _, ⟨first, others⟩ => by
    rw [printItems, List.map_cons, escapeAscii_print first, escapeAscii_printItems others, arrangeItems, printItems]

theorem escapeAscii_printFields [LawfulNumbers N] : ∀ {fields : List (Text × Tree (Scalar N))}, AllFields Scalar.IsFinite List.Nodup fields →
    (printFields quote Scalar.stringify fields).map escapeAscii =
      printFields asciiQuoting.quote (Scalar.write asciiQuoting.quote) (arrangeFields Scalar.norm .asIs fields)
  | [], _ => rfl
  | (_, _) :: _, ⟨first, others⟩ => by
    rw [printFields, List.map_cons, escapeAscii_append, escapeAscii_cons (by decide), escapeAscii_print first,
      escapeAscii_printFields others, arrangeFields, printFields]
    rfl

end

section
variable [LawfulNumbers N] {value other : Tree (Scalar N)}

def written (value : Tree (Scalar N)) : Tree (Scalar N) := value.arrange Scalar.norm (Order.byKey.then .built)

theorem sorted_permutes : (Order.byKey.then .built).Permutes := Order.byKey_permutes.then Order.built_permutes

theorem canonicalSellerJson_eq (formed : value.WellFormed Scalar.IsFinite) :
    canonicalSellerJson value = (written value).print asciiQuoting.quote (Scalar.write asciiQuoting.quote) := by
  have finite : (sorted value).WellFormed Scalar.IsFinite := formed.arrange sorted_permutes.keeps fun _ => id
  rw [canonicalSellerJson, stringify, escapeAscii_print finite, sorted, Tree.arrange_arrange]
  rfl

theorem parseTree_canonicalSellerJson (formed : value.WellFormed Scalar.IsFinite) :
    parseTree readScalar (canonicalSellerJson value) = some (written value) := by
  rw [canonicalSellerJson_eq formed]
  exact parseTree_print (reads_scalars asciiQuoting) (formed.arranged sorted_permutes)

omit [LawfulNumbers N] in
theorem written_iff_normal (formed : value.WellFormed Scalar.IsFinite) (formed' : other.WellFormed Scalar.IsFinite) :
    written value = written other ↔ value.normal Scalar.norm = other.normal Scalar.norm := by
  constructor
  · intro same
    have back : ∀ {tree : Tree (Scalar N)}, tree.WellFormed Scalar.IsFinite → (written tree).normal id = tree.normal Scalar.norm :=
      fun formed => formed.normal_arrange sorted_permutes Scalar.norm id
    rw [← back formed, same, back formed']
  · intro same
    have forth : ∀ tree : Tree (Scalar N), (tree.normal Scalar.norm).arrange id .built = written tree :=
      fun tree => Tree.arrange_arrange Scalar.norm .byKey id .built tree
    rw [← forth, same, forth]

theorem canonicalSellerJson_inj (formed : value.WellFormed Scalar.IsFinite) (formed' : other.WellFormed Scalar.IsFinite) :
    canonicalSellerJson value = canonicalSellerJson other ↔ value.Same Scalar.Same other := by
  rw [Tree.same_iff_normal equal_scalars formed formed', ← written_iff_normal formed formed']
  constructor
  · intro same
    have first := parseTree_canonicalSellerJson formed
    rw [same, parseTree_canonicalSellerJson formed'] at first
    exact (Option.some.inj first).symm
  · intro same
    rw [canonicalSellerJson_eq formed, canonicalSellerJson_eq formed', same]

theorem parse_canonicalSellerJson_eq (formed : value.WellFormed Scalar.IsFinite) :
    parse readScalar (canonicalSellerJson value) =
      some (value.arrange Scalar.norm ((Order.byKey.then .built).then .own)) := by
  have reads := @parse_print _ _ asciiQuoting _ _ (reads_scalars asciiQuoting) _ (formed.arranged sorted_permutes)
  rw [canonicalSellerJson_eq formed]
  exact reads.trans (congrArg some (Tree.arrange_arrange Scalar.norm (Order.byKey.then .built) id .own value))

omit [DecidableEq N] in
/-- What `JSON.stringify` writes of finite numbers is parsed to the same values. -/
theorem parse_stringify (formed : value.WellFormed Scalar.IsNormal) :
    parse readScalar (stringify value) = some (value.arrange id .own) := by
  have printed : stringify value = value.print jsonQuoting.quote (Scalar.write jsonQuoting.quote) := by
    have leaves : ∀ leaf : Scalar N, leaf.IsNormal → leaf.stringify = leaf.write jsonQuoting.quote := by
      intro leaf normal
      cases leaf with
      | num n => exact if_pos normal.1
      | _ => rfl
    rw [stringify, @Tree.All.print_congr _ _ _ _ _ id _ _ leaves value formed, Tree.arrange_id]
    rfl
  rw [printed]
  exact parse_print (reads_scalars jsonQuoting) formed

omit [DecidableEq N] [LawfulNumbers N] [Numbers N] in
theorem arrange_own (words : value.All (fun _ => True) fun keys => ∀ key ∈ keys, isArrayIndex key = false) :
    value.arrange id .own = value := by
  have same : value.arrange id .own = value.arrange id .asIs := by
    refine words.arrange_congr (fun _ _ => rfl) fun fields plain => ?_
    have none : fields.filter (fun field => isArrayIndex field.1) = [] :=
      List.filter_eq_nil_iff.mpr fun field member => by simp [plain field.1 (List.mem_map_of_mem member)]
    have all : fields.filter (fun field => !isArrayIndex field.1) = fields :=
      List.filter_eq_self.mpr fun field member => by simp [plain field.1 (List.mem_map_of_mem member)]
    show ownFields fields = fields
    rw [ownFields, none, all]
    rfl
  rw [same, Tree.arrange_id]

theorem parse_canonicalSellerJson (formed : value.WellFormed Scalar.IsFinite) :
    ∃ parsed : Tree (Scalar N), parse readScalar (canonicalSellerJson value) = some parsed ∧ parsed.Same Scalar.Same value ∧
      canonicalSellerJson parsed = canonicalSellerJson value := by
  obtain ⟨finite, same⟩ := formed.same_arranged (sorted_permutes.then Order.own_permutes)
  exact ⟨_, parse_canonicalSellerJson_eq formed, same, (canonicalSellerJson_inj finite formed).mpr same⟩

/-- In every object the array indices come first and in numeric order among texts, and code points are in the order of units. -/
def Orderly (value : Tree (Scalar N)) : Prop := value.All (fun _ => True) fun keys => KeysAscend keys ∧ KeysAgree keys

theorem emitted_keeps : (Order.byKey.then .built).Keeps (fun keys => keys.Nodup ∧ KeysAscend keys ∧ KeysAgree keys)
    (List.Pairwise (· < ·)) := by
  rintro γ fields ⟨distinct, ascend, _⟩
  exact ⟨sorted_permutes fields distinct, emitted_ascends distinct ascend⟩

theorem emitted_eq_sorted {γ : Type} {fields : List (Text × γ)} (distinct : (keys fields).Nodup)
    (listed : KeysAscend (keys fields) ∧ KeysAgree (keys fields)) :
    (Order.byKey.then .built).list fields = (Order.by codePoints).list fields := by
  have perm := sorted_permutes fields distinct
  have ascending := emitted_ascends distinct listed.1
  refine eq_of_sorted codePoints_injective ((perm.map Prod.fst).nodup_iff.mpr distinct) (perm.trans sortBy_perm.symm) ?_ sortBy_sorted
  rw [keys, List.pairwise_map] at ascending
  refine List.Pairwise.imp_of_mem ?_ ascending
  intro first second member member' less
  refine (listed.2 _ ?_ _ ?_ less).le
  · exact List.mem_map_of_mem (perm.mem_iff.mp member)
  · exact List.mem_map_of_mem (perm.mem_iff.mp member')

omit [LawfulNumbers N] in
theorem written_ascending (formed : value.WellFormed Scalar.IsFinite) (orderly : Orderly value) :
    (written value).All (fun _ => True) (List.Pairwise (· < ·)) :=
  (formed.and orderly).arrange emitted_keeps fun _ _ => trivial

theorem canonicalSellerJson_eq_sellerJson (formed : value.WellFormed Scalar.IsFinite) (orderly : Orderly value) :
    canonicalSellerJson value = sellerJson value := by
  rw [canonicalSellerJson_eq formed, written, sellerJson]
  rw [(formed.and orderly).arrange_congr (fun _ _ => rfl) fun fields listed => emitted_eq_sorted listed.1 listed.2]

theorem SellerFaithful.orderly (formed : value.WellFormed Scalar.IsFinite) (faithful : SellerFaithful value) : Orderly value := by
  obtain ⟨shown, read, ascending⟩ := faithful.ascending
  rw [parseTree_canonicalSellerJson formed] at read
  cases Option.some.inj read
  have texts := faithful.hashed id
  have sorting : (Order.by codePoints).Permutes := Order.by_permutes _
  have same : written value = value.arrange Scalar.norm (.by codePoints) := by
    have first := parseTree_canonicalSellerJson formed
    have second := @parseTree_print _ asciiQuoting _ _ _ (reads_scalars asciiQuoting) _ (formed.arranged sorting)
    rw [show canonicalSellerJson value = sellerJson value from texts] at first
    exact Option.some.inj (first.symm.trans second)
  have agreeing : (written value).All (fun _ => True) (List.Pairwise fun key other => codePoints key ≤ codePoints other) := by
    rw [same]
    refine formed.arrange ?_ fun _ _ => trivial
    intro γ fields distinct
    exact ⟨sortBy_perm, List.pairwise_map.mpr sortBy_sorted⟩
  refine formed.of_arrange sorted_permutes ?_ (ascending.and agreeing)
  intro γ fields distinct listed
  exact emitted_reveals distinct listed.1 listed.2

theorem sellerFaithful_iff (formed : value.WellFormed Scalar.IsFinite) : SellerFaithful value ↔ Orderly value := by
  constructor
  · exact SellerFaithful.orderly formed
  · intro orderly
    constructor
    · exact fun c member => (escapeAscii_narrow member).trans (by decide)
    · exact ⟨_, parseTree_canonicalSellerJson formed, written_ascending formed orderly⟩
    · exact parse_canonicalSellerJson formed
    · exact fun other formed' => canonicalSellerJson_inj formed formed'
    · intro H hash
      rw [canonicalSellerJson_eq_sellerJson formed orderly]

end

structure Manifest (N : Type) where
  version : N
  jobId : N
  chainId : N
  commerce : Text
  router : Text
  policy : Text
  content : Text
  contentType : Option Text
  metadata : List (Text × Tree (Scalar N))

def Manifest.contracts (manifest : Manifest N) : List (Text × Tree (Scalar N)) :=
  [(units "commerce", .leaf (.str manifest.commerce)), (units "router", .leaf (.str manifest.router)),
    (units "policy", .leaf (.str manifest.policy))]

def Manifest.response (manifest : Manifest N) : List (Text × Tree (Scalar N)) :=
  (units "content", .leaf (.str manifest.content)) ::
    (manifest.contentType.map fun type => (units "content_type", .leaf (.str type))).toList

def Manifest.fields (manifest : Manifest N) : List (Text × Tree (Scalar N)) :=
  [(units "version", .leaf (.num manifest.version)), (units "job_id", .leaf (.num manifest.jobId)),
    (units "chain_id", .leaf (.num manifest.chainId)), (units "contracts", .obj manifest.contracts),
    (units "response", .obj manifest.response), (units "metadata", .obj manifest.metadata)]

def Manifest.tree (manifest : Manifest N) : Tree (Scalar N) := .obj manifest.fields

/-- The manifest as its schema returns it: `z.record` leaves out the key `__proto__`. -/
def Manifest.parsed (manifest : Manifest N) : Manifest N :=
  { manifest with metadata := manifest.metadata.filter fun field => field.1 ≠ units "__proto__" }

/-- What is promised of a manifest: its text, and that what is read of it has the hash that the seller committed to. -/
def ManifestFaithful (manifest : Manifest N) : Prop :=
  SellerFaithful manifest.tree ∧ ∀ {H : Type} (hash : Text → H), hash (canonicalSellerJson manifest.parsed.tree) = hash (sellerJson manifest.tree)

section
variable [LawfulNumbers N] {manifest : Manifest N}

omit [LawfulNumbers N] [DecidableEq N] in
theorem Manifest.parsed_wellFormed (formed : manifest.tree.WellFormed Scalar.IsFinite) : manifest.parsed.tree.WellFormed Scalar.IsFinite := by
  obtain ⟨distinct, version, jobId, chainId, contracts, response, ⟨metadata, values⟩, _⟩ := formed
  refine ⟨distinct, version, jobId, chainId, contracts, response, ⟨?_, ?_⟩, trivial⟩
  · exact metadata.sublist (List.filter_sublist.map Prod.fst)
  · exact allFields_iff.mpr fun field member => allFields_iff.mp values field (List.mem_of_mem_filter member)

theorem manifestFaithful_iff (formed : manifest.tree.WellFormed Scalar.IsFinite) :
    ManifestFaithful manifest ↔ Orderly manifest.tree ∧ units "__proto__" ∉ keys manifest.metadata := by
  constructor
  · rintro ⟨faithful, hashed⟩
    refine ⟨faithful.orderly formed, fun member => ?_⟩
    have texts : canonicalSellerJson manifest.parsed.tree = canonicalSellerJson manifest.tree :=
      (hashed id).trans (faithful.hashed id).symm
    have same := (canonicalSellerJson_inj (Manifest.parsed_wellFormed formed) formed).mp texts
    obtain ⟨_, _, _, _, _, _, ⟨metadata, given, sameMetadata⟩, _⟩ := same
    have listed : (units "metadata", Tree.obj manifest.metadata) ∈ manifest.fields := by simp [Manifest.fields]
    cases eq_of_key formed.1 given listed
    obtain ⟨value, kept⟩ := mem_keys.mp ((sameMetadata.1 _).mpr member)
    simpa using (List.mem_filter.mp kept).2
  · rintro ⟨orderly, absent⟩
    refine ⟨(sellerFaithful_iff formed).mpr orderly, fun hash => ?_⟩
    have same : manifest.parsed = manifest := by
      have kept : manifest.metadata.filter (fun field => field.1 ≠ units "__proto__") = manifest.metadata := by
        refine List.filter_eq_self.mpr fun field member => decide_eq_true fun named => absent ?_
        rw [← named]
        exact List.mem_map_of_mem member
      rw [Manifest.parsed, kept]
    rw [same, canonicalSellerJson_eq_sellerJson formed orderly]

end

/-- The text of a value is what is promised exactly if in all its objects the array indices are in order, before the other
keys, and the code points are in the order of the code units; and a manifest of such values is read as it was hashed exactly
if its metadata have no key `__proto__`. -/
theorem canonicalSellerJson_faithful_iff [LawfulNumbers N] {value : Tree (Scalar N)} {manifest : Manifest N}
    (formed : value.WellFormed Scalar.IsFinite) (formed' : manifest.tree.WellFormed Scalar.IsFinite) :
    (SellerFaithful value ↔ Orderly value) ∧
      (ManifestFaithful manifest ↔ Orderly manifest.tree ∧ units "__proto__" ∉ keys manifest.metadata) :=
  ⟨sellerFaithful_iff formed, manifestFaithful_iff formed'⟩

/-- Of the keys `10` and `9` the second is written first. -/
def nineTen : Tree (Scalar SmallNumber) := .obj [([0x31, 0x30], .leaf .null), ([0x39], .leaf .null)]

theorem nineTen_unfaithful : ¬SellerFaithful nineTen := by
  have formed : nineTen.WellFormed Scalar.IsFinite := ⟨by decide, trivial, trivial, trivial⟩
  intro faithful
  have listed := (faithful.orderly formed).1.1
  have ascend := (listed [0x39] (by decide) [0x31, 0x30] (by decide) (by decide)).1 (by decide) (by decide)
  exact absurd ascend (by decide)

def resultManifest : Manifest SmallNumber where
  version := some 1
  jobId := some 7
  chainId := some 97
  commerce := units "0xaaaaaaaaaaaaaaaaaaaaaaaaaaaaaaaaaaaaaaaa"
  router := units "0xbbbbbbbbbbbbbbbbbbbbbbbbbbbbbbbbbbbbbbbb"
  policy := units "0xcccccccccccccccccccccccccccccccccccccccc"
  content := units "done"
  contentType := none
  metadata := []

theorem nineTen_iff : (SellerFaithful nineTen ↔ Orderly nineTen) ∧
    (ManifestFaithful resultManifest ↔ Orderly resultManifest.tree ∧ units "__proto__" ∉ keys resultManifest.metadata) := by
  refine canonicalSellerJson_faithful_iff ⟨by decide, trivial, trivial, trivial⟩ ⟨by decide, ?_⟩
  exact ⟨rfl, rfl, rfl, ⟨by decide, trivial, trivial, trivial, trivial⟩, ⟨by decide, trivial, trivial⟩, ⟨by decide, trivial⟩, trivial⟩

end Bnbera.JsonText
