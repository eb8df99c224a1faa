import Bnbera.Ingestion.Categories

/-! A match is justified by one label unless two labels meet in a phrase. -/

namespace Bnbera.Ingestion.Categories

open JsonText
open Words (joined collapse holdsWord strip_collapse words_collapse mem_collapse words_congr words_append_gap mem_words
  phrase_joined_iff holdsWord_joined not_isChain_flatten_iff Straddled Meets)

/-! ### Words of labels -/

def isGap (c : CodeUnit) : Bool := isWhite c || isDash c

section
variable [Runtime]

def labelWords (label : Text) : List Text := Words.words isGap (Runtime.toLowerCase label)

omit [Runtime] in
theorem isGap_space : isGap 0x20 = true := by decide

theorem normalizeText_eq (text : Text) : normalizeText text = joined 0x20 (labelWords text) := by
  have white : isWhite 0x20 = true := by decide
  have lowered : Words.words isWhite (collapse isDash 0x20 false (Runtime.toLowerCase text)) = labelWords text := by
    have agree : ∀ c ∈ collapse isDash 0x20 false (Runtime.toLowerCase text), isWhite c = isGap c := by
      intro c member
      rcases mem_collapse member with rfl | plain
      · decide
      · rw [isGap, plain, Bool.or_false]
    rw [words_congr agree, words_collapse (fun c dash => by rw [isGap, dash, Bool.or_true]) isGap_space, labelWords]
  rw [normalizeText, trim, strip_collapse white, lowered]

theorem space_notMem_labelWords {label word : Text} (member : word ∈ labelWords label) : (0x20 : CodeUnit) ∉ word := by
  intro space
  have plain := (mem_words member).2 _ space
  rw [isGap_space] at plain
  cases plain

variable [LawfulRuntime]

theorem labelWords_joinTexts (labels : List Text) : labelWords (joinTexts labels) = (labels.map labelWords).flatten := by
  have nothing : labelWords [] = [] := by
    have lowered : Runtime.toLowerCase [] = [] := LawfulRuntime.toLowerCase_ascii (by rintro _ ⟨⟩)
    rw [labelWords, lowered]
    rfl
  induction labels with
  | nil => exact nothing
  | cons label labels ih =>
    by_cases more : labels = []
    · subst more
      rw [joinTexts, Words.joined_singleton, List.map_singleton, List.flatten_singleton]
    · rw [joinTexts, Words.joined_cons more, labelWords, LawfulRuntime.toLowerCase_space, words_append_gap isGap_space,
        List.map_cons, List.flatten_cons, ← ih]
      rfl

/-! ### Terms -/

def termWords (term : String) : List Text := Words.words isGap ((units term).map lowerUnit)

def isTerm (term : String) : Bool :=
  (units term).all (fun c => decide (c.val < 0x80)) && (termWords term).all (fun word => word.all fun c => 97 ≤ c.val && c.val ≤ 122) &&
    ((termWords term).length == 1 || (termWords term).length == 2)

omit [Runtime] [LawfulRuntime] in
theorem categoryRules_terms : ∀ rule ∈ categoryRules, ∀ term ∈ rule.terms, isTerm term = true := by decide

theorem labelWords_term {term : String} (shaped : isTerm term = true) : labelWords (units term) = termWords term := by
  simp only [isTerm, Bool.and_eq_true, List.all_eq_true, decide_eq_true_eq] at shaped
  rw [labelWords, LawfulRuntime.toLowerCase_ascii shaped.1.1, termWords]

omit [Runtime] [LawfulRuntime] in
theorem isTerm_units {term : String} (shaped : isTerm term = true) {word : Text} (member : word ∈ termWords term) {c : CodeUnit}
    (unit : c ∈ word) : 97 ≤ c.val ∧ c.val ≤ 122 := by
  simp only [isTerm, Bool.and_eq_true, List.all_eq_true, decide_eq_true_eq] at shaped
  exact shaped.1.2 word member c unit

omit [Runtime] [LawfulRuntime] in
theorem letter_unfit {n : CodeUnit} (letter : 97 ≤ n.val ∧ n.val ≤ 122) : (foldUnit n == foldUnit 0x20) = false := by
  have same : foldUnit n = n := by
    unfold foldUnit lowerUnit
    rw [if_neg (by omega), if_neg (by omega), if_neg (by omega)]
  have space : foldUnit 0x20 = 0x20 := by decide
  rw [same, space]
  refine beq_eq_false_iff_ne.mpr fun equal => ?_
  rw [equal] at letter
  exact absurd letter.1 (by decide)

def fitsUnit (n c : CodeUnit) : Bool := foldUnit n == foldUnit c

theorem containsTerm_word {term : String} (shaped : isTerm term = true) {word : Text} (single : termWords term = [word])
    (text : Text) : containsTerm text term = (labelWords text).any (holdsWord fitsUnit isLetter word true) := by
  have letters : ∀ c ∈ word, 97 ≤ c.val ∧ c.val ≤ 122 := fun c unit =>
    isTerm_units shaped (single ▸ List.mem_singleton_self word) unit
  have needle : normalizeText (units term) = word := by
    rw [normalizeText_eq, labelWords_term shaped, single, Words.joined_singleton]
  have plain : (word.contains 0x20 || word.contains 0x2d) = false := by
    rw [Bool.or_eq_false_iff, List.contains_eq_mem, List.contains_eq_mem, decide_eq_false_iff_not, decide_eq_false_iff_not]
    exact ⟨fun space => absurd (letters _ space).1 (by decide), fun dash => absurd (letters _ dash).1 (by decide)⟩
  have present : word ≠ [] := by
    have member : word ∈ labelWords (units term) := by rw [labelWords_term shaped, single]; exact List.mem_singleton_self word
    exact (mem_words member).1
  unfold containsTerm
  dsimp only
  rw [needle, plain, if_neg (by decide), normalizeText_eq]
  have quiet : isLetter 0x20 = false := by decide
  exact @holdsWord_joined _ 0x20 fitsUnit isLetter word quiet (fun n unit => letter_unfit (letters n unit)) present _

theorem containsTerm_phrase {term : String} (shaped : isTerm term = true) {first second : Text}
    (both : termWords term = [first, second]) (text : Text) :
    containsTerm text term = true ↔ ¬(labelWords text).IsChain fun word next => ¬Meets first second word next := by
  have free : ∀ word ∈ termWords term, (0x20 : CodeUnit) ∉ word := fun word member space =>
    absurd (isTerm_units shaped member space).1 (by decide)
  rw [both] at free
  have needle : normalizeText (units term) = first ++ 0x20 :: second := by
    rw [normalizeText_eq, labelWords_term shaped, both, Words.joined_cons (List.cons_ne_nil _ _), Words.joined_singleton]
  have spaced : ((first ++ 0x20 :: second).contains 0x20 || (first ++ 0x20 :: second).contains 0x2d) = true := by
    rw [Bool.or_eq_true, List.contains_eq_mem, decide_eq_true_eq]
    exact .inl (List.mem_append_right _ List.mem_cons_self)
  unfold containsTerm
  dsimp only
  rw [needle, spaced, if_pos rfl, decide_eq_true_eq, normalizeText_eq]
  exact phrase_joined_iff (free first (by simp)) (free second (by simp)) fun _ member => space_notMem_labelWords member

def Straddles (term : String) (labels : List Text) : Prop :=
  ∃ first second, termWords term = [first, second] ∧ Straddled first second (labels.map labelWords)

omit [Runtime] [LawfulRuntime] in
theorem termWords_cases {term : String} (shaped : isTerm term = true) :
    (∃ word, termWords term = [word]) ∨ ∃ first second, termWords term = [first, second] := by
  simp only [isTerm, Bool.and_eq_true, Bool.or_eq_true, beq_iff_eq] at shaped
  exact shaped.2.imp List.length_eq_one_iff.mp List.length_eq_two.mp

theorem containsTerm_joinTexts {term : String} (shaped : isTerm term = true) (labels : List Text) :
    containsTerm (joinTexts labels) term = true ↔
      (∃ label ∈ labels, containsTerm label term = true) ∨ Straddles term labels := by
  rcases termWords_cases shaped with ⟨word, single⟩ | ⟨first, second, both⟩
  · have never : ¬Straddles term labels := by
      rintro ⟨first, second, both, _⟩
      rw [single] at both
      cases both
    rw [or_iff_left never]
    simp only [containsTerm_word shaped single, labelWords_joinTexts, List.any_eq_true, List.mem_flatten, List.mem_map]
    constructor
    · rintro ⟨found, ⟨_, ⟨label, member, rfl⟩, inside⟩, holds⟩
      exact ⟨label, member, found, inside, holds⟩
    · rintro ⟨label, member, found, inside, holds⟩
      exact ⟨found, ⟨_, ⟨label, member, rfl⟩, inside⟩, holds⟩
  · have straddles : Straddles term labels ↔ Straddled first second (labels.map labelWords) := by
      constructor
      · rintro ⟨first', second', both', straddled⟩
        obtain ⟨rfl, last⟩ := List.cons.inj (both.symm.trans both')
        exact (List.cons.inj last).1 ▸ straddled
      · exact fun straddled => ⟨first, second, both, straddled⟩
    simp only [straddles, containsTerm_phrase shaped both, labelWords_joinTexts, not_isChain_flatten_iff, List.mem_map,
      exists_exists_and_eq_and]

end

/-! ### Labels of an input -/

section
variable {N : Type}

def labelled (input : CategoryClassificationInput N) : List (String × List Text) :=
  [("protocol", protocolLabels input), ("skill", skillLabels input), ("domain", domainLabels input),
    ("capability", capabilityLabels input), ("advertisedSkill", advertisedSkillLabels input)]

inductive Reorders : Value N → Value N → Prop
  | same (value : Value N) : Reorders value value
  | items {items items' : List (Value N)} : items.Perm items' → Reorders (.arr items) (.arr items')

structure Rearranges (input input' : CategoryClassificationInput N) : Prop where
  name : input'.name = input.name
  description : input'.description = input.description
  protocols : Reorders input.protocols input'.protocols
  supportedProtocols : Reorders input.supportedProtocols input'.supportedProtocols
  skills : Reorders input.skills input'.skills
  advertisedSkills : Reorders input.advertisedSkills input'.advertisedSkills
  domains : Reorders input.domains input'.domains
  capabilities : input'.capabilities = input.capabilities
  agentCard : Reorders input.agentCard input'.agentCard
  mcpCapabilities : input'.mcpCapabilities = input.mcpCapabilities
  metadata : input'.metadata = input.metadata

structure Bounded (input : CategoryClassificationInput N) : Prop where
  protocols : (labelsOf (itemsOf input.protocols)).length ≤ 64
  supportedProtocols : (labelsOf (itemsOf input.supportedProtocols)).length ≤ 64
  skills : (labelsOf (itemsOf input.skills)).length ≤ 128
  advertisedSkills : (labelsOf (itemsOf input.advertisedSkills)).length ≤ 128
  domains : (labelsOf (itemsOf input.domains)).length ≤ 128

theorem textList_perm {value value' : Value N} {limit : Nat} (reorders : Reorders value value')
    (bounded : (labelsOf (itemsOf value)).length ≤ limit) : (textList value limit).Perm (textList value' limit) := by
  cases reorders with
  | same => exact .refl _
  | items perm =>
    have labels : (labelsOf (itemsOf (.arr _))).Perm (labelsOf (itemsOf (.arr _))) := (perm.flatMap_right itemTexts).filter _
    unfold textList
    rw [List.take_of_length_le bounded, List.take_of_length_le (labels.length_eq ▸ bounded)]
    exact labels

theorem ne_nil_of_mem_textList {value : Value N} {limit : Nat} {label : Text} (member : label ∈ textList value limit) :
    label ≠ [] := by
  have shown := (List.mem_filter.mp (List.mem_of_mem_take member)).2
  rintro rfl
  cases shown

theorem advertisedSkillLabels_perm {input input' : CategoryClassificationInput N} (bounded : Bounded input)
    (rearranges : Rearranges input input') : (advertisedSkillLabels input).Perm (advertisedSkillLabels input') := by
  refine (textList_perm rearranges.advertisedSkills bounded.advertisedSkills).append ?_
  have cards := rearranges.agentCard
  generalize input.agentCard = card at cards
  generalize input'.agentCard = card' at cards
  cases cards with
  | same => exact .refl _
  | items perm => exact perm.flatMap_right cardLabels

def SameLabels (field field' : String × List Text) : Prop :=
  field.1 = field'.1 ∧ field.2.Perm field'.2 ∧ (joinTexts field.2).isEmpty = (joinTexts field'.2).isEmpty

theorem joinTexts_isEmpty {labels : List Text} (shown : ∀ label ∈ labels, label ≠ []) :
    (joinTexts labels).isEmpty = labels.isEmpty := by
  cases labels with
  | nil => rfl
  | cons label labels =>
    have present := shown label List.mem_cons_self
    by_cases more : labels = []
    · subst more
      rw [joinTexts, Words.joined_singleton]
      simp [present]
    · rw [joinTexts, Words.joined_cons more]
      simp

theorem sameLabels_of_perm {name : String} {labels labels' : List Text} (perm : labels.Perm labels')
    (shown : ∀ label ∈ labels, label ≠ []) : SameLabels (name, labels) (name, labels') := by
  refine ⟨rfl, perm, ?_⟩
  rw [joinTexts_isEmpty shown, joinTexts_isEmpty fun label member => shown label (perm.mem_iff.mpr member)]
  cases labels with
  | nil => rw [List.nil_perm.mp perm]
  | cons label labels =>
    cases labels' with
    | nil => cases List.perm_nil.mp perm
    | cons => rfl

theorem ne_nil_of_mem_advertised {input : CategoryClassificationInput N} :
    ∀ label ∈ advertisedSkillLabels input, label ≠ [] := by
  intro label member
  unfold advertisedSkillLabels at member
  rcases List.mem_append.mp member with first | later
  · exact ne_nil_of_mem_textList first
  · split at later
    · obtain ⟨card, _, inside⟩ := List.mem_flatMap.mp later
      exact ne_nil_of_mem_textList inside
    · exact ne_nil_of_mem_textList later

theorem labelled_rearranged {input input' : CategoryClassificationInput N} (bounded : Bounded input)
    (rearranges : Rearranges input input') : List.Forall₂ SameLabels (labelled input) (labelled input') := by
  have metadata : metadataOf input' = metadataOf input := by rw [metadataOf, metadataOf, rearranges.metadata]
  have capability : SameLabels ("capability", capabilityLabels input) ("capability", capabilityLabels input') := by
    rw [capabilityLabels, capabilityLabels, rearranges.capabilities, rearranges.mcpCapabilities]
    exact ⟨rfl, .refl _, rfl⟩
  refine .cons ?_ (.cons ?_ (.cons ?_ (.cons capability (.cons ?_ .nil))))
  · refine sameLabels_of_perm ?_ fun label member => ?_
    · rw [protocolLabels, protocolLabels, metadata]
      exact ((((textList_perm rearranges.protocols bounded.protocols).append
        (textList_perm rearranges.supportedProtocols bounded.supportedProtocols)).append_right _).append_right _)
    · simp only [protocolLabels, List.mem_append] at member
      rcases member with ((inside | inside) | inside) | inside <;> exact ne_nil_of_mem_textList inside
  · refine sameLabels_of_perm ?_ fun label member => ?_
    · rw [skillLabels, skillLabels, metadata]
      exact ((textList_perm rearranges.skills bounded.skills).append_right _).append_right _
    · simp only [skillLabels, List.mem_append] at member
      rcases member with (inside | inside) | inside <;> exact ne_nil_of_mem_textList inside
  · refine sameLabels_of_perm ?_ fun label member => ?_
    · rw [domainLabels, domainLabels, metadata]
      exact ((textList_perm rearranges.domains bounded.domains).append_right _).append_right _
    · simp only [domainLabels, List.mem_append] at member
      rcases member with (inside | inside) | inside <;> exact ne_nil_of_mem_textList inside
  · exact sameLabels_of_perm (advertisedSkillLabels_perm bounded rearranges) ne_nil_of_mem_advertised

end

/-! ### Scores -/

section
variable {N : Type} [Runtime]

omit [Runtime] in
theorem mem_sortedSet {texts : List Text} {text : Text} : text ∈ sortedSet texts ↔ text ∈ texts := by
  rw [sortedSet, List.mem_insertionSort, List.mem_eraseDups]

theorem mem_foundPairs {rule : CategoryRule} {fields : Fields} {pair : String × String} :
    pair ∈ foundPairs rule fields ↔
      pair.2 ∈ rule.terms ∧ ∃ text, (pair.1, text) ∈ fields ∧ containsTerm text pair.2 = true := by
  simp only [foundPairs, List.mem_flatMap, List.mem_map, List.mem_filter]
  constructor
  · rintro ⟨term, listed, ⟨name, text⟩, ⟨member, found⟩, rfl⟩
    exact ⟨listed, text, member, found⟩
  · rintro ⟨listed, text, member, found⟩
    exact ⟨pair.2, listed, (pair.1, text), ⟨member, found⟩, rfl⟩

def allFields (input : CategoryClassificationInput N) : Fields :=
  [("name", publicText input.name 160), ("description", publicText input.description 2000),
    ("protocol", joinTexts (protocolLabels input)), ("skill", joinTexts (skillLabels input)),
    ("domain", joinTexts (domainLabels input)), ("capability", joinTexts (capabilityLabels input)),
    ("metadata", metadataText (metadataOf input)), ("advertisedSkill", joinTexts (advertisedSkillLabels input))]

variable [LawfulRuntime]

theorem containsTerm_nil {term : String} (shaped : isTerm term = true) : containsTerm [] term = false := by
  refine Bool.eq_false_iff.mpr fun found => ?_
  rcases (containsTerm_joinTexts shaped []).mp found with ⟨_, member, _⟩ | ⟨_, _, _, before, text, next, after, split, _⟩
  · cases member
  · simp at split

theorem foundPairs_fieldsOf {rule : CategoryRule} (listed : rule ∈ categoryRules) (input : CategoryClassificationInput N) :
    foundPairs rule (fieldsOf input) = foundPairs rule (allFields input) := by
  refine List.flatMap_congr fun term member => congrArg _ ?_
  have none := containsTerm_nil (categoryRules_terms rule listed term member)
  unfold fieldsOf allFields
  split
  · next empty =>
    rw [List.isEmpty_iff.mp empty]
    simp only [List.append_nil, List.filter_cons, none, List.filter_nil]
    rfl
  · rfl

omit [LawfulRuntime] in
theorem mem_structuredMatches {rule : CategoryRule} {fields : Fields} {found : Text} :
    found ∈ (scoreRule rule fields).structuredMatches ↔
      ∃ pair ∈ foundPairs rule fields, pair.1 ∈ structuredFields ∧ found = entry pair.1 pair.2 := by
  simp only [scoreRule, mem_sortedSet, List.mem_map, List.mem_filter, isStructured, List.contains_iff_mem]
  constructor
  · rintro ⟨pair, ⟨member, structured⟩, rfl⟩
    exact ⟨pair, member, structured, rfl⟩
  · rintro ⟨pair, member, structured, rfl⟩
    exact ⟨pair, ⟨member, structured⟩, rfl⟩

omit [Runtime] [LawfulRuntime] in
theorem mem_allFields {input : CategoryClassificationInput N} {name : String} (structured : name ∈ structuredFields) {text : Text} :
    (name, text) ∈ allFields input ↔ ∃ labels, (name, labels) ∈ labelled input ∧ text = joinTexts labels := by
  simp only [structuredFields, List.mem_cons, List.not_mem_nil, or_false] at structured
  rcases structured with rfl | rfl | rfl | rfl | rfl <;> simp [allFields, labelled]

omit [Runtime] [LawfulRuntime] in
theorem mem_structuredFields {input : CategoryClassificationInput N} {field : String × List Text}
    (member : field ∈ labelled input) : field.1 ∈ structuredFields := by
  simp only [labelled, List.mem_cons, List.not_mem_nil, or_false] at member
  rcases member with rfl | rfl | rfl | rfl | rfl <;> simp [structuredFields]

omit [Runtime] [LawfulRuntime] in
theorem labelled_unique {input : CategoryClassificationInput N} {field field' : String × List Text}
    (member : field ∈ labelled input) (member' : field' ∈ labelled input) (same : field.1 = field'.1) : field = field' :=
  List.inj_on_of_nodup_map (show ((labelled input).map Prod.fst).Nodup from by simp [labelled]) member member' same

omit [Runtime] [LawfulRuntime] in
theorem entry_inj {name name' term term' : String} {rule : CategoryRule} (listed : rule ∈ categoryRules)
    (structured : name ∈ structuredFields) (structured' : name' ∈ structuredFields) (member : term ∈ rule.terms)
    (member' : term' ∈ rule.terms) (same : entry name term = entry name' term') : name = name' ∧ term = term' := by
  have free : ∀ name ∈ structuredFields, (0x3a : CodeUnit) ∉ units name := by decide
  have names : ∀ name ∈ structuredFields, ∀ name' ∈ structuredFields, units name = units name' → name = name' := by decide
  have terms : ∀ rule ∈ categoryRules, ∀ term ∈ rule.terms, ∀ term' ∈ rule.terms, units term = units term' → term = term' := by
    decide
  obtain ⟨first, second⟩ := Delimited.cut_of_notMem (free name structured) (free name' structured') same
  exact ⟨names name structured name' structured' first, terms rule listed term member term' member' second⟩

def Justified (input : CategoryClassificationInput N) : Prop :=
  ∀ rule ∈ categoryRules, ∀ found ∈ (scoreRule rule (fieldsOf input)).structuredMatches,
    ∃ field ∈ labelled input, ∃ term ∈ rule.terms, found = entry field.1 term ∧ ∃ label ∈ field.2, containsTerm label term = true

/-- Where a term of two words arises between two labels of a field, one label of the field contains it anyway. -/
def PhrasesOwned (input : CategoryClassificationInput N) : Prop :=
  ∀ field ∈ labelled input, ∀ rule ∈ categoryRules, ∀ term ∈ rule.terms, Straddles term field.2 →
    ∃ label ∈ field.2, containsTerm label term = true

theorem mem_structured_fieldsOf {rule : CategoryRule} (listed : rule ∈ categoryRules) {input : CategoryClassificationInput N}
    {found : Text} : found ∈ (scoreRule rule (fieldsOf input)).structuredMatches ↔
      ∃ field ∈ labelled input, ∃ term ∈ rule.terms, found = entry field.1 term ∧ containsTerm (joinTexts field.2) term = true := by
  rw [mem_structuredMatches, foundPairs_fieldsOf listed]
  constructor
  · rintro ⟨⟨name, term⟩, member, structured, rfl⟩
    obtain ⟨inside, text, shown, holds⟩ := mem_foundPairs.mp member
    obtain ⟨labels, owned, rfl⟩ := (mem_allFields structured).mp shown
    exact ⟨(name, labels), owned, term, inside, rfl, holds⟩
  · rintro ⟨⟨name, labels⟩, owned, term, inside, rfl, holds⟩
    have structured := mem_structuredFields owned
    exact ⟨(name, term), mem_foundPairs.mpr ⟨inside, _, (mem_allFields structured).mpr ⟨labels, owned, rfl⟩, holds⟩, structured, rfl⟩

theorem justified_iff {input : CategoryClassificationInput N} : Justified input ↔ PhrasesOwned input := by
  constructor
  · intro justified field owned rule listed term inside straddles
    have shaped := categoryRules_terms rule listed term inside
    have found : entry field.1 term ∈ (scoreRule rule (fieldsOf input)).structuredMatches :=
      (mem_structured_fieldsOf listed).mpr ⟨field, owned, term, inside, rfl, (containsTerm_joinTexts shaped _).mpr (.inr straddles)⟩
    obtain ⟨field', owned', term', inside', same, label, member, holds⟩ := justified rule listed _ found
    obtain ⟨names, rfl⟩ := entry_inj listed (mem_structuredFields owned) (mem_structuredFields owned') inside inside' same
    rw [labelled_unique owned owned' names]
    exact ⟨label, member, holds⟩
  · intro owns rule listed found member
    obtain ⟨field, owned, term, inside, rfl, holds⟩ := (mem_structured_fieldsOf listed).mp member
    refine ⟨field, owned, term, inside, rfl, ?_⟩
    rcases (containsTerm_joinTexts (categoryRules_terms rule listed term inside) _).mp holds with single | straddles
    · exact single
    · exact owns field owned rule listed term inside straddles

/-! ### Other orders -/

theorem containsTerm_joinTexts_owned {input : CategoryClassificationInput N} (owns : PhrasesOwned input)
    {field : String × List Text} (owned : field ∈ labelled input) {rule : CategoryRule} (listed : rule ∈ categoryRules)
    {term : String} (inside : term ∈ rule.terms) :
    containsTerm (joinTexts field.2) term = field.2.any fun label => containsTerm label term := by
  rw [Bool.eq_iff_iff, containsTerm_joinTexts (categoryRules_terms rule listed term inside), List.any_eq_true]
  exact or_iff_left_of_imp (owns field owned rule listed term inside)

omit [LawfulRuntime] in
theorem foundPairs_congr {rule : CategoryRule} {fields fields' : Fields}
    (same : List.Forall₂ (fun field field' => field.1 = field'.1 ∧
      ∀ term ∈ rule.terms, containsTerm field.2 term = containsTerm field'.2 term) fields fields') :
    foundPairs rule fields = foundPairs rule fields' := by
  refine List.flatMap_congr fun term inside => ?_
  induction same with
  | nil => rfl
  | cons first _ ih =>
    obtain ⟨name, agree⟩ := first
    rw [List.filter_cons, List.filter_cons, agree term inside]
    split
    · rw [List.map_cons, List.map_cons, ih, name]
    · exact ih

theorem scoreRule_rearranged {input input' : CategoryClassificationInput N} (bounded : Bounded input)
    (rearranges : Rearranges input input') (owns : PhrasesOwned input) (owns' : PhrasesOwned input') {rule : CategoryRule}
    (listed : rule ∈ categoryRules) : scoreRule rule (fieldsOf input) = scoreRule rule (fieldsOf input') := by
  have pairs : foundPairs rule (fieldsOf input) = foundPairs rule (fieldsOf input') := by
    rw [foundPairs_fieldsOf listed, foundPairs_fieldsOf listed]
    refine foundPairs_congr ?_
    have agree : ∀ {field field'}, field ∈ labelled input → field' ∈ labelled input' → SameLabels field field' →
        field.1 = field'.1 ∧ ∀ term ∈ rule.terms,
          containsTerm (joinTexts field.2) term = containsTerm (joinTexts field'.2) term := by
      intro field field' owned owned' same
      refine ⟨same.1, fun term inside => ?_⟩
      rw [containsTerm_joinTexts_owned owns owned listed inside, containsTerm_joinTexts_owned owns' owned' listed inside,
        same.2.1.any_eq]
    have both := labelled_rearranged bounded rearranges
    unfold labelled at both
    simp only [List.forall₂_cons] at both
    obtain ⟨protocol, skill, domain, capability, advertised, _⟩ := both
    have metadata : metadataOf input' = metadataOf input := by rw [metadataOf, metadataOf, rearranges.metadata]
    refine .cons ⟨rfl, fun term _ => by rw [rearranges.name]⟩ (.cons ⟨rfl, fun term _ => by rw [rearranges.description]⟩
      (.cons (agree ?_ ?_ protocol) (.cons (agree ?_ ?_ skill) (.cons (agree ?_ ?_ domain) (.cons (agree ?_ ?_ capability)
        (.cons ⟨rfl, fun term _ => by rw [metadata]⟩ (.cons (agree ?_ ?_ advertised) .nil)))))))
    all_goals simp [labelled]
  unfold scoreRule
  rw [pairs]

end

theorem structuredPresent_fieldsOf {N : Type} (input : CategoryClassificationInput N) :
    structuredPresent (fieldsOf input) = (labelled input).any fun field => !(joinTexts field.2).isEmpty := by
  unfold structuredPresent fieldsOf
  split
  · next empty =>
    simp [structuredFields, labelled, List.lookup_cons, empty]
    ac_rfl
  · next shown =>
    simp [structuredFields, labelled, List.lookup_cons, shown]

/-! ### Candidates -/

theorem rule_of_category {rule rule' : CategoryRule} (listed : rule ∈ categoryRules) (listed' : rule' ∈ categoryRules)
    (same : rule.category = rule'.category) : rule = rule' :=
  List.inj_on_of_nodup_map (by decide : (categoryRules.map CategoryRule.category).Nodup) listed listed' same

section
variable [Runtime]

theorem descending_ranked (fields : Fields) :
    (ranked fields).Pairwise fun first later => later.structuredScore ≤ first.structuredScore := by
  have distinct : ((categoryRules.map fun rule => scoreRule rule fields).map CategoryEvidence.key).Nodup := by
    refine List.Nodup.of_map (fun key => OrderDual.ofDual (ofLex (ofLex key).2).2) ?_
    exact (by decide : (categoryRules.map fun rule => rule.category.place).Nodup)
  refine (Keyset.descending_strict distinct).imp fun before => ?_
  rcases Prod.Lex.lt_iff.mp before with less | ⟨same, _⟩
  · exact less.le
  · exact same.le

theorem mem_ranked {fields : Fields} {evidence : CategoryEvidence} :
    evidence ∈ ranked fields ↔ ∃ rule ∈ categoryRules, scoreRule rule fields = evidence := by
  rw [ranked, Keyset.descending_perm.mem_iff, List.mem_map]

theorem structuredScore_eq_zero {rule : CategoryRule} {fields : Fields}
    (empty : (scoreRule rule fields).structuredMatches = []) : (scoreRule rule fields).structuredScore = 0 := by
  have none : (foundPairs rule fields).filter isStructured = [] := by
    refine List.filter_eq_nil_iff.mpr fun pair member structured => ?_
    have found : entry pair.1 pair.2 ∈ (scoreRule rule fields).structuredMatches :=
      mem_structuredMatches.mpr ⟨pair, member, List.contains_iff_mem.mp structured, rfl⟩
    rw [empty] at found
    cases found
  unfold scoreRule
  dsimp only
  rw [none]
  rfl

section
variable {fields : Fields} {best : CategoryEvidence} {rest : List CategoryEvidence} {digest : Text}

theorem classified_category {rule : CategoryRule} (listed : rule ∈ categoryRules) (ranks : ranked fields = best :: rest)
    (promoted : (classified fields best rest.head? digest).category = rule.category) :
    best = scoreRule rule fields ∧
      promotes best rest.head? (confidenceFor best rest.head? (structuredPresent fields)) = true := by
  have named : ∀ rule ∈ categoryRules, AgentCategory.uncategorized ≠ rule.category := by decide
  unfold classified at promoted
  dsimp only at promoted
  split at promoted
  · next promote =>
    obtain ⟨rule', listed', rfl⟩ := mem_ranked.mp (ranks ▸ List.mem_cons_self)
    obtain rfl := rule_of_category listed' listed promoted
    exact ⟨rfl, promote⟩
  · exact absurd promoted (named rule listed)

theorem classified_weak {rule : CategoryRule} (listed : rule ∈ categoryRules) (ranks : ranked fields = best :: rest)
    (weak : ∀ found ∈ (scoreRule rule fields).structuredMatches, ∃ term ∈ weakAdvertisedTerms, found = entry "advertisedSkill" term) :
    (classified fields best rest.head? digest).category ≠ rule.category := by
  intro promoted
  obtain ⟨rfl, promote⟩ := classified_category listed ranks promoted
  simp only [promotes, Bool.and_eq_true, Bool.not_eq_true', decide_eq_true_eq] at promote
  have weakly : ∀ term ∈ weakAdvertisedTerms, isWeakMatch (entry "advertisedSkill" term) = true := by decide
  have all : (scoreRule rule fields).structuredMatches.all isWeakMatch = true := by
    refine List.all_eq_true.mpr fun found member => ?_
    obtain ⟨term, listed, rfl⟩ := weak found member
    exact weakly term listed
  have strong := promote.1.1.1.1
  rw [hasOnlyWeakAdvertisedEvidence, all, Bool.and_true, Bool.not_eq_false', List.isEmpty_iff] at strong
  have score := structuredScore_eq_zero strong
  have enough := promote.1.1.1.2
  rw [score] at enough
  exact absurd enough (by decide)

theorem classified_applicable (second : Option CategoryEvidence) :
    (classified fields best second digest).evidence.applicableCategories = applicableCategories (ranked fields) := by
  unfold classified
  dsimp only

/-- A promoted category is applicable, and every other one has a smaller score. -/
theorem classified_promoted {rule : CategoryRule} (listed : rule ∈ categoryRules) (ranks : ranked fields = best :: rest)
    (promoted : (classified fields best rest.head? digest).category = rule.category) :
    rule.category ∈ (classified fields best rest.head? digest).evidence.applicableCategories ∧
      ∀ other ∈ categoryRules, other.category ≠ rule.category →
        (scoreRule other fields).structuredScore < (scoreRule rule fields).structuredScore := by
  rw [classified_applicable]
  obtain ⟨rfl, promote⟩ := classified_category listed ranks promoted
  simp only [promotes, Bool.and_eq_true, Bool.not_eq_true', decide_eq_true_eq] at promote
  obtain ⟨⟨⟨⟨strong, enough⟩, _⟩, _⟩, margin⟩ := promote
  constructor
  · have few : (ranked fields).length = 4 := Keyset.descending_perm.length_eq
    unfold applicableCategories
    rw [List.take_of_length_le]
    · refine List.mem_map.mpr ⟨scoreRule rule fields, ?_, rfl⟩
      refine List.mem_filter.mpr ⟨List.mem_filter.mpr ⟨mem_ranked.mpr ⟨rule, listed, rfl⟩, ?_⟩, ?_⟩
      · exact decide_eq_true enough
      · rw [strong, Bool.not_false]
    · rw [List.length_map, ← few]
      exact (List.length_filter_le _ _).trans (List.length_filter_le _ _)
  · intro other listed' differs
    have descending := descending_ranked fields
    have member : scoreRule other fields ∈ ranked fields := mem_ranked.mpr ⟨other, listed', rfl⟩
    rw [ranks] at descending member
    rcases List.mem_cons.mp member with same | later
    · exact absurd (congrArg CategoryEvidence.category same) differs
    · cases rest with
      | nil => cases later
      | cons second others =>
        have next : (scoreRule other fields).structuredScore ≤ second.structuredScore := by
          rcases List.mem_cons.mp later with same | last
          · rw [same]
          · exact (List.pairwise_cons.mp (List.pairwise_cons.mp descending).2).1 _ last
        have above : second.structuredScore + 4 < (scoreRule rule fields).structuredScore := margin
        omega

theorem classified_without_labels {N : Type} {input : CategoryClassificationInput N}
    (none : ∀ field ∈ labelled input, field.2 = []) :
    (classified (fieldsOf input) best rest.head? digest).category = .uncategorized := by
  have absent : structuredPresent (fieldsOf input) = false := by
    rw [structuredPresent_fieldsOf, List.any_eq_false]
    intro field member
    rw [none field member]
    decide
  unfold classified
  dsimp only
  refine if_neg fun promote => ?_
  rw [absent, promotes, confidenceFor] at promote
  simp at promote

end

end

/-! ### Checks of rearranged inputs -/

theorem countedNode_eq_ok {depth nodes last : Nat} :
    countedNode depth nodes = .ok last ↔ depth ≤ 8 ∧ nodes ≤ 2048 ∧ last = nodes + 1 := by
  unfold countedNode
  rw [refuseIf_bind_eq_ok, not_or, not_lt, not_lt, and_assoc]
  exact and_congr_right fun _ => and_congr_right fun _ => ⟨fun same => (Except.ok.inj same).symm, fun same => same ▸ rfl⟩

section
variable {N : Type} [Numbers N]

mutual

/-- A check that passes counts as many values wherever the count stands. -/
theorem assertSafePublicValue_counts {depth nodes last : Nat} : ∀ {value : Value N},
    assertSafePublicValue depth nodes value = .ok last → ∃ count, last = nodes + count ∧ last ≤ 2049 ∧
      ∀ before, before + count ≤ 2049 → assertSafePublicValue depth before value = .ok (before + count)
  | .leaf (.scalar (.num n)), passed => by
    rw [assertSafePublicValue] at passed
    obtain ⟨nodes', counted, passed⟩ := bind_eq_ok.mp passed
    obtain ⟨finite, same⟩ := refuseIf_bind_eq_ok.mp passed
    obtain ⟨deep, room, rfl⟩ := countedNode_eq_ok.mp counted
    refine ⟨1, (Except.ok.inj same).symm, by rw [← Except.ok.inj same]; omega, fun before room => ?_⟩
    rw [assertSafePublicValue]
    exact bind_eq_ok.mpr ⟨before + 1, countedNode_eq_ok.mpr ⟨deep, by omega, rfl⟩, refuseIf_bind_eq_ok.mpr ⟨finite, rfl⟩⟩
  | .leaf (.scalar (.str text)), passed => by
    rw [assertSafePublicValue] at passed
    obtain ⟨nodes', counted, passed⟩ := bind_eq_ok.mp passed
    obtain ⟨short, same⟩ := refuseIf_bind_eq_ok.mp passed
    obtain ⟨deep, room, rfl⟩ := countedNode_eq_ok.mp counted
    refine ⟨1, (Except.ok.inj same).symm, by rw [← Except.ok.inj same]; omega, fun before room => ?_⟩
    rw [assertSafePublicValue]
    exact bind_eq_ok.mpr ⟨before + 1, countedNode_eq_ok.mpr ⟨deep, by omega, rfl⟩, refuseIf_bind_eq_ok.mpr ⟨short, rfl⟩⟩
  | .leaf (.scalar .null), passed => by
    rw [assertSafePublicValue] at passed
    · obtain ⟨deep, room, rfl⟩ := countedNode_eq_ok.mp passed
      refine ⟨1, rfl, by omega, fun before room => ?_⟩
      rw [assertSafePublicValue]
      · exact countedNode_eq_ok.mpr ⟨deep, by omega, rfl⟩
      all_goals nofun
    all_goals nofun
  | .leaf (.scalar (.bool value)), passed => by
    rw [assertSafePublicValue] at passed
    · obtain ⟨deep, room, rfl⟩ := countedNode_eq_ok.mp passed
      refine ⟨1, rfl, by omega, fun before room => ?_⟩
      rw [assertSafePublicValue]
      · exact countedNode_eq_ok.mpr ⟨deep, by omega, rfl⟩
      all_goals nofun
    all_goals nofun
  | .leaf .undefined, passed | .leaf .bigint, passed | .leaf .function, passed | .leaf .symbol, passed
  | .leaf .classInstance, passed => by
    rw [assertSafePublicValue] at passed
    · obtain ⟨_, _, failed⟩ := bind_eq_ok.mp passed
      cases failed
    all_goals nofun
  | .arr items, passed => by
    rw [assertSafePublicValue] at passed
    obtain ⟨nodes', counted, passed⟩ := bind_eq_ok.mp passed
    obtain ⟨few, passed⟩ := refuseIf_bind_eq_ok.mp passed
    obtain ⟨deep, room, rfl⟩ := countedNode_eq_ok.mp counted
    obtain ⟨count, rfl, within, again⟩ := assertSafeItems_counts (by omega) passed
    refine ⟨1 + count, by omega, within, fun before room => ?_⟩
    rw [assertSafePublicValue]
    refine bind_eq_ok.mpr ⟨before + 1, countedNode_eq_ok.mpr ⟨deep, by omega, rfl⟩, refuseIf_bind_eq_ok.mpr ⟨few, ?_⟩⟩
    rw [← Nat.add_assoc]
    exact again (before + 1) (by omega)
  | .obj fields, passed => by
    rw [assertSafePublicValue] at passed
    obtain ⟨nodes', counted, passed⟩ := bind_eq_ok.mp passed
    obtain ⟨deep, room, rfl⟩ := countedNode_eq_ok.mp counted
    obtain ⟨count, rfl, within, again⟩ := assertSafeFields_counts (by omega) passed
    refine ⟨1 + count, by omega, within, fun before room => ?_⟩
    rw [assertSafePublicValue]
    refine bind_eq_ok.mpr ⟨before + 1, countedNode_eq_ok.mpr ⟨deep, by omega, rfl⟩, ?_⟩
    rw [← Nat.add_assoc]
    exact again (before + 1) (by omega)

theorem assertSafeItems_counts {depth nodes last : Nat} (room : nodes ≤ 2049) : ∀ {items : List (Value N)},
    assertSafeItems depth nodes items = .ok last → ∃ count, last = nodes + count ∧ last ≤ 2049 ∧
      ∀ before, before + count ≤ 2049 → assertSafeItems depth before items = .ok (before + count)
  | [], passed => ⟨0, (Except.ok.inj passed).symm, Except.ok.inj passed ▸ room, fun _ _ => rfl⟩
  | item :: rest, passed => by
    rw [assertSafeItems] at passed
    obtain ⟨middle, first, later⟩ := bind_eq_ok.mp passed
    obtain ⟨count, rfl, within, again⟩ := assertSafePublicValue_counts first
    obtain ⟨count', rfl, within', again'⟩ := assertSafeItems_counts within later
    refine ⟨count + count', by omega, within', fun before room => ?_⟩
    rw [assertSafeItems, ← Nat.add_assoc]
    exact bind_eq_ok.mpr ⟨before + count, again before (by omega), again' (before + count) (by omega)⟩

theorem assertSafeFields_counts {depth nodes last : Nat} (room : nodes ≤ 2049) : ∀ {fields : List (Text × Value N)},
    assertSafeFields depth nodes fields = .ok last → ∃ count, last = nodes + count ∧ last ≤ 2049 ∧
      ∀ before, before + count ≤ 2049 → assertSafeFields depth before fields = .ok (before + count)
  | [], passed => ⟨0, (Except.ok.inj passed).symm, Except.ok.inj passed ▸ room, fun _ _ => rfl⟩
  | (key, child) :: rest, passed => by
    rw [assertSafeFields] at passed
    obtain ⟨plain, passed⟩ := refuseIf_bind_eq_ok.mp passed
    obtain ⟨middle, first, later⟩ := bind_eq_ok.mp passed
    obtain ⟨count, rfl, within, again⟩ := assertSafePublicValue_counts first
    obtain ⟨count', rfl, within', again'⟩ := assertSafeFields_counts within later
    refine ⟨count + count', by omega, within', fun before room => ?_⟩
    rw [assertSafeFields, ← Nat.add_assoc]
    refine refuseIf_bind_eq_ok.mpr ⟨plain, ?_⟩
    exact bind_eq_ok.mpr ⟨before + count, again before (by omega), again' (before + count) (by omega)⟩

end

theorem assertSafeItems_perm {depth nodes last : Nat} {items items' : List (Value N)} (perm : items.Perm items')
    (room : nodes ≤ 2049) (passed : assertSafeItems depth nodes items = .ok last) :
    assertSafeItems depth nodes items' = .ok last := by
  induction perm generalizing nodes with
  | nil => exact passed
  | cons item _ ih =>
    rw [assertSafeItems] at passed ⊢
    obtain ⟨middle, first, later⟩ := bind_eq_ok.mp passed
    obtain ⟨_, _, within, _⟩ := assertSafePublicValue_counts first
    exact bind_eq_ok.mpr ⟨middle, first, ih within later⟩
  | swap first second rest =>
    rw [assertSafeItems] at passed
    obtain ⟨middle, one, later⟩ := bind_eq_ok.mp passed
    rw [assertSafeItems] at later
    obtain ⟨middle', two, later⟩ := bind_eq_ok.mp later
    obtain ⟨count, rfl, _, again⟩ := assertSafePublicValue_counts one
    obtain ⟨count', rfl, within, again'⟩ := assertSafePublicValue_counts two
    rw [assertSafeItems]
    refine bind_eq_ok.mpr ⟨nodes + count', again' nodes (by omega), ?_⟩
    rw [assertSafeItems]
    refine bind_eq_ok.mpr ⟨nodes + count + count', ?_, later⟩
    rw [Nat.add_right_comm]
    exact again (nodes + count') (by omega)
  | trans _ _ ih ih' => exact ih' room (ih room passed)

theorem assertSafe_reorders {value value' : Value N} (reorders : Reorders value value') (passed : assertSafe value = .ok ()) :
    assertSafe value' = .ok () := by
  cases reorders with
  | same => exact passed
  | items perm =>
    obtain ⟨last, counted, _⟩ := map_eq_ok.mp passed
    rw [assertSafePublicValue] at counted
    obtain ⟨nodes, first, counted⟩ := bind_eq_ok.mp counted
    obtain ⟨few, counted⟩ := refuseIf_bind_eq_ok.mp counted
    obtain ⟨_, _, rfl⟩ := countedNode_eq_ok.mp first
    refine map_eq_ok.mpr ⟨last, ?_, rfl⟩
    rw [assertSafePublicValue]
    exact bind_eq_ok.mpr ⟨_, first, refuseIf_bind_eq_ok.mpr ⟨perm.length_eq ▸ few, assertSafeItems_perm perm (by decide) counted⟩⟩

theorem assertSafeFields_last {depth nodes last : Nat} {fields : List (Text × Value N)} {key text other : Text}
    (short : other.length ≤ 10000)
    (passed : assertSafeFields depth nodes (fields ++ [(key, .leaf (.scalar (.str text)))]) = .ok last) :
    assertSafeFields depth nodes (fields ++ [(key, .leaf (.scalar (.str other)))]) = .ok last := by
  induction fields generalizing nodes with
  | nil =>
    rw [List.nil_append, assertSafeFields, assertSafePublicValue] at passed ⊢
    obtain ⟨plain, passed⟩ := refuseIf_bind_eq_ok.mp passed
    obtain ⟨middle, first, later⟩ := bind_eq_ok.mp passed
    obtain ⟨counted, first, same⟩ := bind_eq_ok.mp first
    obtain ⟨_, same⟩ := refuseIf_bind_eq_ok.mp same
    exact refuseIf_bind_eq_ok.mpr ⟨plain, bind_eq_ok.mpr ⟨middle,
      bind_eq_ok.mpr ⟨counted, first, refuseIf_bind_eq_ok.mpr ⟨not_lt.mpr short, same⟩⟩, later⟩⟩
  | cons field fields ih =>
    obtain ⟨name, child⟩ := field
    rw [List.cons_append, assertSafeFields] at passed ⊢
    obtain ⟨plain, passed⟩ := refuseIf_bind_eq_ok.mp passed
    obtain ⟨middle, first, later⟩ := bind_eq_ok.mp passed
    exact refuseIf_bind_eq_ok.mpr ⟨plain, bind_eq_ok.mpr ⟨middle, first, ih later⟩⟩

variable [Counting N]

theorem assertSafe_digest {evidence : AcceptedEvidence} {digest : Text} (short : digest.length ≤ 10000)
    (passed : assertSafe (evidence.value : JsonText.Tree (Scalar N)).unknown = .ok ()) :
    assertSafe ({ evidence with digest }.value : JsonText.Tree (Scalar N)).unknown = .ok () := by
  obtain ⟨last, counted, _⟩ := map_eq_ok.mp passed
  unfold AcceptedEvidence.value at counted
  rw [Tree.unknown, Tree.arrange, Order.asIs_list, arrangeFields_eq_map, List.map_append, assertSafePublicValue] at counted
  obtain ⟨nodes, first, counted⟩ := bind_eq_ok.mp counted
  refine map_eq_ok.mpr ⟨last, ?_, rfl⟩
  unfold AcceptedEvidence.value
  rw [Tree.unknown, Tree.arrange, Order.asIs_list, arrangeFields_eq_map, List.map_append, assertSafePublicValue]
  exact bind_eq_ok.mpr ⟨nodes, first, assertSafeFields_last short counted⟩

variable [LawfulNumbers N] [DecidableEq N] [Runtime] [LawfulRuntime]

omit [LawfulNumbers N] [DecidableEq N] [Runtime] [LawfulRuntime] [Counting N] [Numbers N] in
theorem textsValue_wellFormed [Numbers N] (texts : List Text) :
    (textsValue texts : JsonText.Tree (Scalar N)).WellFormed Scalar.IsFinite :=
  allItems_iff.mpr fun _ member => by
    obtain ⟨text, _, rfl⟩ := List.mem_map.mp member
    exact trivial

omit [LawfulNumbers N] [DecidableEq N] [Runtime] [LawfulRuntime] in
theorem scoreValue_wellFormed (score : Nat) : (scoreValue score : JsonText.Tree (Scalar N)).WellFormed Scalar.IsFinite :=
  Counting.isFinite_ofNat score

theorem evidenceDigest_fieldsOf (input : CategoryClassificationInput N) :
    ∃ digest, evidenceDigest N (fieldsOf input) = .ok digest ∧ digest.length = 64 := by
  have fields : (fieldsValue (fieldsOf input) : JsonText.Tree (Scalar N)).WellFormed Scalar.IsFinite := by
    refine ⟨?_, allFields_iff.mpr fun field member => ?_⟩
    · have names : ((fieldsOf input).map Prod.fst).map units =
          keys ((fieldsOf input).map fun field => (units field.1, (textValue field.2 : JsonText.Tree (Scalar N)))) := by
        rw [keys, List.map_map, List.map_map]
        rfl
      rw [← names]
      unfold fieldsOf
      split
      · exact (by decide : (["name", "description", "protocol", "skill", "domain", "capability", "metadata"].map units).Nodup)
      · exact (by decide : (["name", "description", "protocol", "skill", "domain", "capability", "metadata",
          "advertisedSkill"].map units).Nodup)
    · obtain ⟨_, _, rfl⟩ := List.mem_map.mp member
      exact trivial
  have evidence : ∀ evidence : CategoryEvidence, (evidence.value : JsonText.Tree (Scalar N)).WellFormed Scalar.IsFinite := by
    intro evidence
    refine ⟨(by decide : (["category", "matchedTerms", "structuredMatches", "semanticMatches", "structuredScore",
      "semanticScore"].map units).Nodup), trivial, textsValue_wellFormed _, textsValue_wellFormed _, textsValue_wellFormed _,
      scoreValue_wellFormed _, scoreValue_wellFormed _, trivial⟩
  have formed : (.obj [(units "fields", fieldsValue (fieldsOf input)), (units "evidence",
      .arr (categoryRules.map fun rule => (scoreRule rule (fieldsOf input)).value))] : JsonText.Tree (Scalar N)).WellFormed
        Scalar.IsFinite := by
    refine ⟨(by decide : (["fields", "evidence"].map units).Nodup), fields, allItems_iff.mpr fun value member => ?_, trivial⟩
    obtain ⟨_, _, rfl⟩ := List.mem_map.mp member
    exact evidence _
  have printed := canonicalValue_unknown formed
  generalize Tree.print _ _ _ = text at printed
  refine ⟨Runtime.sha256Hex text, ?_, LawfulRuntime.sha256Hex_length text⟩
  unfold evidenceDigest canonicalSha256Hex JsonText.canonicalizeJson
  rw [printed]

/-! ### Classifications -/

omit [LawfulNumbers N] [LawfulRuntime] in
theorem classifyAgent_eq_ok {input : CategoryClassificationInput N} {result : CategoryClassification} :
    classifyAgent input = .ok result ↔ normalizeInput input = .ok (fieldsOf input) ∧ ∃ best rest digest,
      ranked (fieldsOf input) = best :: rest ∧ evidenceDigest N (fieldsOf input) = .ok digest ∧
        result = classified (fieldsOf input) best rest.head? digest ∧
        assertSafe (result.evidence.value : JsonText.Tree (Scalar N)).unknown = .ok () := by
  have normal : ∀ {fields}, normalizeInput input = .ok fields → fields = fieldsOf input := by
    intro fields normalized
    unfold normalizeInput at normalized
    iterate 5 obtain ⟨_, _, normalized⟩ := bind_eq_ok.mp normalized
    exact (Except.ok.inj normalized).symm
  unfold classifyAgent
  rw [bind_eq_ok]
  constructor
  · rintro ⟨fields, normalized, rest⟩
    obtain rfl := normal normalized
    refine ⟨normalized, ?_⟩
    cases ranks : ranked (fieldsOf input) with
    | nil =>
      rw [ranks] at rest
      cases rest
    | cons best others =>
      rw [ranks] at rest
      obtain ⟨digest, made, rest⟩ := bind_eq_ok.mp rest
      obtain ⟨_, safe, same⟩ := bind_eq_ok.mp rest
      cases Except.ok.inj same
      exact ⟨best, others, digest, rfl, made, rfl, safe⟩
  · rintro ⟨normalized, best, rest, digest, ranks, made, rfl, safe⟩
    refine ⟨fieldsOf input, normalized, ?_⟩
    rw [ranks]
    exact bind_eq_ok.mpr ⟨digest, made, bind_eq_ok.mpr ⟨(), safe, rfl⟩⟩

omit [DecidableEq N] [LawfulNumbers N] [Counting N] [Runtime] [LawfulRuntime] in
theorem normalizeInput_rearranged {input input' : CategoryClassificationInput N} (rearranges : Rearranges input input')
    (normalized : normalizeInput input = .ok (fieldsOf input)) : normalizeInput input' = .ok (fieldsOf input') := by
  unfold normalizeInput at normalized ⊢
  obtain ⟨_, metadata, normalized⟩ := bind_eq_ok.mp normalized
  obtain ⟨_, capabilities, normalized⟩ := bind_eq_ok.mp normalized
  obtain ⟨_, advertised, normalized⟩ := bind_eq_ok.mp normalized
  obtain ⟨_, card, normalized⟩ := bind_eq_ok.mp normalized
  obtain ⟨_, mcp, _⟩ := bind_eq_ok.mp normalized
  rw [rearranges.metadata, rearranges.capabilities, rearranges.mcpCapabilities]
  exact bind_eq_ok.mpr ⟨(), metadata, bind_eq_ok.mpr ⟨(), capabilities,
    bind_eq_ok.mpr ⟨(), assertSafe_reorders rearranges.advertisedSkills advertised,
      bind_eq_ok.mpr ⟨(), assertSafe_reorders rearranges.agentCard card, bind_eq_ok.mpr ⟨(), mcp, rfl⟩⟩⟩⟩⟩

def SameOutcome (first second : CategoryClassification) : Prop :=
  ∃ digest, second = { first with evidence := { first.evidence with digest } }

theorem classifyAgent_rearranged {input input' : CategoryClassificationInput N} (bounded : Bounded input)
    (rearranges : Rearranges input input') (owns : PhrasesOwned input) (owns' : PhrasesOwned input')
    {result : CategoryClassification} (returned : classifyAgent input = .ok result) :
    ∃ result', classifyAgent input' = .ok result' ∧ SameOutcome result result' := by
  obtain ⟨normalized, best, rest, digest, ranks, made, rfl, safe⟩ := classifyAgent_eq_ok.mp returned
  have scores : ∀ rule ∈ categoryRules, scoreRule rule (fieldsOf input') = scoreRule rule (fieldsOf input) :=
    fun rule listed => (scoreRule_rearranged bounded rearranges owns owns' listed).symm
  have present : structuredPresent (fieldsOf input') = structuredPresent (fieldsOf input) := by
    rw [structuredPresent_fieldsOf, structuredPresent_fieldsOf]
    have both := labelled_rearranged bounded rearranges
    generalize labelled input = fields at both
    generalize labelled input' = fields' at both
    induction both with
    | nil => rfl
    | cons same _ ih => rw [List.any_cons, List.any_cons, ih, same.2.2]
  have evidence : (categoryRules.map fun rule => scoreRule rule (fieldsOf input')) =
      categoryRules.map fun rule => scoreRule rule (fieldsOf input) := List.map_congr_left scores
  have ranks' : ranked (fieldsOf input') = ranked (fieldsOf input) := by rw [ranked, ranked, evidence]
  obtain ⟨digest', made', size⟩ := evidenceDigest_fieldsOf input'
  have candidates : (categoryRules.map fun rule => (rule.category, (scoreRule rule (fieldsOf input')).structuredScore,
      (scoreRule rule (fieldsOf input')).semanticScore)) = categoryRules.map fun rule =>
        (rule.category, (scoreRule rule (fieldsOf input)).structuredScore, (scoreRule rule (fieldsOf input)).semanticScore) :=
    List.map_congr_left fun rule listed => by rw [scores rule listed]
  have same : classified (fieldsOf input') best rest.head? digest' =
      { classified (fieldsOf input) best rest.head? digest with
        evidence := { (classified (fieldsOf input) best rest.head? digest).evidence with digest := digest' } } := by
    unfold classified
    rw [present, ranks', candidates]
  refine ⟨_, classifyAgent_eq_ok.mpr ⟨normalizeInput_rearranged rearranges normalized, best, rest, digest', ranks'.trans ranks,
    made', rfl, ?_⟩, digest', same⟩
  rw [same]
  exact assertSafe_digest (by omega) safe

/-- In no order of the items does a term of two words arise between two labels of a field none of which contains it. -/
def PhrasesApart (input : CategoryClassificationInput N) : Prop := ∀ input', Rearranges input input' → PhrasesOwned input'

/-- Each match is owed to one label in every order of the items, and no order changes the outcome; without labels, or with
weak ones only, no category is promoted; and a promoted category is applicable with the greatest score. -/
structure PerLabel (input : CategoryClassificationInput N) (result : CategoryClassification) : Prop where
  justified : ∀ input', Rearranges input input' → Justified input'
  unchanged : ∀ input', Rearranges input input' → ∃ result', classifyAgent input' = .ok result' ∧ SameOutcome result result'
  unlabelled : (∀ field ∈ labelled input, field.2 = []) → result.category = .uncategorized
  weak : ∀ rule ∈ categoryRules, (∀ found ∈ (scoreRule rule (fieldsOf input)).structuredMatches,
    ∃ term ∈ weakAdvertisedTerms, found = entry "advertisedSkill" term) → result.category ≠ rule.category
  promoted : ∀ rule ∈ categoryRules, result.category = rule.category →
    rule.category ∈ result.evidence.applicableCategories ∧ ∀ other ∈ categoryRules, other.category ≠ rule.category →
      (scoreRule other (fieldsOf input)).structuredScore < (scoreRule rule (fieldsOf input)).structuredScore

omit [Numbers N] [Counting N] [LawfulNumbers N] [DecidableEq N] [Runtime] [LawfulRuntime] in
theorem Rearranges.refl (input : CategoryClassificationInput N) : Rearranges input input :=
  ⟨rfl, rfl, .same _, .same _, .same _, .same _, .same _, rfl, .same _, rfl, rfl⟩

end

/-! ### Samples -/

instance sampleRuntime : Runtime where
  toLowerCase text := text.map lowerUnit
  sha256Hex _ := List.replicate 64 0x30

instance : LawfulRuntime where
  toLowerCase_space first second := by
    have space : lowerUnit 0x20 = 0x20 := by decide
    simp only [Runtime.toLowerCase, List.map_append, List.map_cons, space]
  toLowerCase_ascii _ := rfl
  sha256Hex_length _ := rfl

instance : Counting SmallNumber where
  ofNat n := some (Fin.ofNat 100 n)
  isFinite_ofNat _ := rfl

def sampleInput (skills : List String) : CategoryClassificationInput SmallNumber where
  name := .leaf .undefined
  description := .leaf .undefined
  protocols := .leaf .undefined
  supportedProtocols := .leaf .undefined
  skills := .arr (skills.map fun skill => .leaf (.scalar (.str (units skill))))
  advertisedSkills := .leaf .undefined
  domains := .leaf .undefined
  capabilities := .leaf .undefined
  agentCard := .leaf .undefined
  mcpCapabilities := .leaf .undefined
  metadata := none

end Bnbera.Ingestion.Categories
