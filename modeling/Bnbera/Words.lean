import Mathlib.Data.List.Chain
import Mathlib.Data.List.TakeWhile
import Bnbera.Delimited

/-! The words of a text, and what can be found in a text whose words are joined by one mark. -/

namespace Words

variable {α : Type}

def words (gap : α → Bool) (text : List α) : List (List α) := (text.splitOnP gap).filter fun word => !word.isEmpty

def collapse (gap : α → Bool) (mark : α) : Bool → List α → List α
  | _, [] => []
  | inside, c :: rest =>
    if gap c then if inside then collapse gap mark true rest else mark :: collapse gap mark true rest
    else c :: collapse gap mark false rest

def strip (gap : α → Bool) (text : List α) : List α := ((text.dropWhile gap).reverse.dropWhile gap).reverse

variable {gap : α → Bool} {mark : α}

/-! ### Words -/

theorem words_append_gap {c : α} (between : gap c = true) (first second : List α) :
    words gap (first ++ c :: second) = words gap first ++ words gap second := by
  unfold words
  rw [List.splitOnP_append_cons first second between, List.filter_append]

theorem words_free {word : List α} (free : ∀ c ∈ word, gap c = false) (present : word ≠ []) : words gap word = [word] := by
  unfold words
  rw [List.splitOnP_eq_singleton free, List.filter_cons_of_pos (by simpa using present), List.filter_nil]

theorem free_or_cut (gap : α → Bool) (text : List α) : (∀ c ∈ text, gap c = false) ∨
    ∃ word c rest, text = word ++ c :: rest ∧ gap c = true ∧ ∀ d ∈ word, gap d = false := by
  induction text with
  | nil => exact .inl fun _ member => nomatch member
  | cons c rest ih =>
    by_cases between : gap c = true
    · exact .inr ⟨[], c, rest, rfl, between, fun _ member => nomatch member⟩
    · have letter := Bool.eq_false_iff.mpr between
      rcases ih with free | ⟨word, d, later, rfl, between, free⟩
      · exact .inl (List.forall_mem_cons.mpr ⟨letter, free⟩)
      · exact .inr ⟨c :: word, d, later, rfl, between, List.forall_mem_cons.mpr ⟨letter, free⟩⟩

theorem cut_induction {property : List α → Prop} (gap : α → Bool)
    (free : ∀ word, (∀ c ∈ word, gap c = false) → property word)
    (cut : ∀ word c rest, (∀ d ∈ word, gap d = false) → gap c = true → property rest → property (word ++ c :: rest)) :
    ∀ text, property text := by
  intro text
  induction size : text.length using Nat.strong_induction_on generalizing text with
  | _ size ih =>
    rcases free_or_cut gap text with plain | ⟨word, c, rest, rfl, between, plain⟩
    · exact free text plain
    · refine cut word c rest plain between (ih rest.length ?_ rest rfl)
      rw [← size, List.length_append, List.length_cons]
      omega

theorem mem_words_free {word found : List α} (free : ∀ c ∈ word, gap c = false) (member : found ∈ words gap word) :
    found = word ∧ word ≠ [] := by
  by_cases present : word = []
  · subst present
    cases member
  · rw [words_free free present, List.mem_singleton] at member
    exact ⟨member, present⟩

theorem mem_words {text word : List α} (member : word ∈ words gap text) : word ≠ [] ∧ ∀ c ∈ word, gap c = false := by
  induction text using cut_induction gap with
  | free text free =>
    obtain ⟨rfl, present⟩ := mem_words_free free member
    exact ⟨present, free⟩
  | cut first c rest free between ih =>
    rw [words_append_gap between] at member
    rcases List.mem_append.mp member with early | later
    · obtain ⟨rfl, present⟩ := mem_words_free free early
      exact ⟨present, free⟩
    · exact ih later

theorem words_free_congr {other : α → Bool} {word : List α} (free : ∀ c ∈ word, gap c = false)
    (agree : ∀ c ∈ word, gap c = other c) : words gap word = words other word := by
  by_cases present : word = []
  · subst present
    rfl
  · rw [words_free free present, words_free (fun c member => (agree c member).symm.trans (free c member)) present]

theorem words_congr {other : α → Bool} {text : List α} (agree : ∀ c ∈ text, gap c = other c) : words gap text = words other text := by
  induction text using cut_induction gap with
  | free word free => exact words_free_congr free agree
  | cut word c rest free between ih =>
    obtain ⟨first, later⟩ := List.forall_mem_append.mp agree
    obtain ⟨same, rests⟩ := List.forall_mem_cons.mp later
    rw [words_append_gap between, words_append_gap (same.symm.trans between), words_free_congr free first, ih rests]

/-! ### Runs of gaps -/

theorem collapse_free {word : List α} (free : ∀ c ∈ word, gap c = false) (inside : Bool) : collapse gap mark inside word = word := by
  induction word generalizing inside with
  | nil => rfl
  | cons c rest ih =>
    obtain ⟨first, later⟩ := List.forall_mem_cons.mp free
    rw [collapse, if_neg (by simp [first]), ih later]

theorem collapse_append_gap {word : List α} (free : ∀ c ∈ word, gap c = false) {c : α} (between : gap c = true)
    (rest : List α) (inside : Bool) : collapse gap mark inside (word ++ c :: rest) =
      if word = [] ∧ inside = true then collapse gap mark true rest else word ++ mark :: collapse gap mark true rest := by
  induction word generalizing inside with
  | nil =>
    rw [List.nil_append, collapse, if_pos between]
    cases inside <;> rfl
  | cons d word ih =>
    obtain ⟨first, later⟩ := List.forall_mem_cons.mp free
    rw [List.cons_append, collapse, if_neg (by simp [first]), ih later]
    simp

theorem words_collapse {narrow : α → Bool} (fewer : ∀ c, narrow c = true → gap c = true) (marked : gap mark = true)
    (inside : Bool) (text : List α) : words gap (collapse narrow mark inside text) = words gap text := by
  induction text using cut_induction narrow generalizing inside with
  | free word free => rw [collapse_free free]
  | cut word c rest free between ih =>
    rw [collapse_append_gap free between, words_append_gap (fewer c between)]
    split
    · next both =>
      rw [both.1, ih]
      rfl
    · rw [words_append_gap marked, ih]

theorem mem_collapse {inside : Bool} {text : List α} {c : α} (member : c ∈ collapse gap mark inside text) :
    c = mark ∨ gap c = false := by
  induction text using cut_induction gap generalizing inside with
  | free word free =>
    rw [collapse_free free] at member
    exact .inr (free c member)
  | cut word d rest free between ih =>
    rw [collapse_append_gap free between] at member
    split at member
    · exact ih member
    · rcases List.mem_append.mp member with first | later
      · exact .inr (free c first)
      · rcases List.mem_cons.mp later with same | last
        · exact .inl same
        · exact ih last

/-! ### Joined words -/

def joined (mark : α) (ws : List (List α)) : List α := [mark].intercalate ws

theorem joined_cons {word : List α} {ws : List (List α)} (more : ws ≠ []) : joined mark (word :: ws) = word ++ mark :: joined mark ws := by
  obtain ⟨next, rest, rfl⟩ := List.exists_cons_of_ne_nil more
  rw [joined, List.intercalate_cons_cons, List.append_assoc]
  rfl

theorem joined_singleton (word : List α) : joined mark [word] = word := List.intercalate_singleton

theorem joined_ends {ws : List (List α)} (plain : ∀ word ∈ ws, word ≠ [] ∧ ∀ c ∈ word, gap c = false) :
    (∀ c ∈ (joined mark ws).head?, gap c = false) ∧ ∀ c ∈ (joined mark ws).getLast?, gap c = false := by
  induction ws with
  | nil => exact ⟨fun _ member => (nomatch member), fun _ member => (nomatch member)⟩
  | cons word ws ih =>
    obtain ⟨⟨present, free⟩, later⟩ := List.forall_mem_cons.mp plain
    by_cases more : ws = []
    · subst more
      rw [joined_singleton]
      exact ⟨fun c first => free c (List.mem_of_mem_head? first), fun c last => free c (List.mem_of_mem_getLast? last)⟩
    · have rest := (ih later).2
      have shown : joined mark ws ≠ [] := by
        obtain ⟨next, others, rfl⟩ := List.exists_cons_of_ne_nil more
        have nonempty := (later next List.mem_cons_self).1
        by_cases single : others = []
        · subst single
          rwa [joined_singleton]
        · rw [joined_cons single]
          exact List.append_ne_nil_of_left_ne_nil nonempty _
      rw [joined_cons more]
      constructor
      · rw [List.head?_append_of_ne_nil _ present]
        exact fun c first => free c (List.mem_of_mem_head? first)
      · rw [List.getLast?_append_of_ne_nil _ (List.cons_ne_nil _ _), List.getLast?_cons_of_ne_nil shown]
        exact rest

/-- A collapsed text is its joined words, with gaps at the ends only. -/
theorem collapse_eq (marked : gap mark = true) (text : List α) :
    (∃ tail, collapse gap mark true text = joined mark (words gap text) ++ tail ∧ ∀ c ∈ tail, gap c = true) ∧
      ∃ lead tail, collapse gap mark false text = lead ++ (joined mark (words gap text) ++ tail) ∧
        (∀ c ∈ lead, gap c = true) ∧ ∀ c ∈ tail, gap c = true := by
  have none : ∀ c ∈ ([] : List α), gap c = true := fun _ member => nomatch member
  induction text using cut_induction gap with
  | free word free =>
    have same : joined mark (words gap word) = word := by
      by_cases present : word = []
      · subst present
        rfl
      · rw [words_free free present, joined_singleton]
    rw [collapse_free free, collapse_free free, same]
    exact ⟨⟨[], (List.append_nil _).symm, none⟩, [], [], (List.append_nil _).symm, none, none⟩
  | cut word c rest free between ih =>
    obtain ⟨tail, inner, gaps⟩ := ih.1
    rw [collapse_append_gap free between, collapse_append_gap free between, words_append_gap between, inner]
    by_cases present : word = []
    · subst present
      have nothing : words gap ([] : List α) = [] := rfl
      rw [if_pos ⟨rfl, rfl⟩, if_neg (by simp), nothing]
      exact ⟨⟨tail, rfl, gaps⟩, [mark], tail, rfl, by simpa using marked, gaps⟩
    · rw [if_neg (by simp [present]), if_neg (by simp [present]), words_free free present, List.singleton_append]
      have whole : ∃ tail', word ++ mark :: (joined mark (words gap rest) ++ tail) = joined mark (word :: words gap rest) ++ tail' ∧
          ∀ c ∈ tail', gap c = true := by
        by_cases more : words gap rest = []
        · rw [more, joined_singleton]
          exact ⟨mark :: tail, rfl, List.forall_mem_cons.mpr ⟨marked, gaps⟩⟩
        · rw [joined_cons more]
          exact ⟨tail, by rw [List.append_assoc, List.cons_append], gaps⟩
      obtain ⟨tail', same, gaps'⟩ := whole
      exact ⟨⟨tail', same, gaps'⟩, [], tail', same, none, gaps'⟩

theorem dropWhile_of_head? {text : List α} (first : ∀ c ∈ text.head?, gap c = false) : text.dropWhile gap = text := by
  cases text with
  | nil => rfl
  | cons c rest => rw [List.dropWhile_cons, if_neg (by simp [first c rfl])]

theorem strip_collapse (marked : gap mark = true) (text : List α) :
    strip gap (collapse gap mark false text) = joined mark (words gap text) := by
  obtain ⟨_, lead, tail, same, leads, tails⟩ := collapse_eq marked text
  obtain ⟨first, last⟩ := @joined_ends α gap mark (words gap text) fun _ member => mem_words member
  have tails' : ∀ c ∈ tail.reverse, gap c = true := fun c member => tails c (List.mem_reverse.mp member)
  rw [same, strip, List.dropWhile_append_of_pos leads]
  by_cases empty : joined mark (words gap text) = []
  · rw [empty, List.nil_append, List.dropWhile_eq_nil_iff.mpr tails]
    rfl
  · have first' : ∀ c ∈ (joined mark (words gap text) ++ tail).head?, gap c = false := by
      rwa [List.head?_append_of_ne_nil _ empty]
    rw [dropWhile_of_head? first', List.reverse_append, List.dropWhile_append_of_pos tails', dropWhile_of_head?,
      List.reverse_reverse]
    rwa [List.head?_reverse]

/-! ### Phrases of two words -/

def Meets (first second word next : List α) : Prop := first <:+ word ∧ second <+: next

theorem phrase_infix_iff [DecidableEq α] {first second word rest : List α} (free : mark ∉ first) (plain : mark ∉ word) :
    (first ++ mark :: second) <:+: (word ++ mark :: rest) ↔
      (first <:+ word ∧ second <+: rest) ∨ (first ++ mark :: second) <:+: rest := by
  constructor
  · rintro ⟨before, after, same⟩
    by_cases early : mark ∈ before
    · obtain ⟨head, later, rfl, out⟩ := List.eq_append_cons_of_mem early
      have cut : head ++ mark :: (later ++ (first ++ mark :: second) ++ after) = word ++ mark :: rest := by
        simpa only [List.append_assoc, List.cons_append] using same
      obtain ⟨_, tail⟩ := Delimited.cut_of_notMem out plain cut
      exact .inr ⟨later, after, tail⟩
    · have cut : (before ++ first) ++ mark :: (second ++ after) = word ++ mark :: rest := by
        simpa only [List.append_assoc, List.cons_append] using same
      have out : mark ∉ before ++ first := fun member => (List.mem_append.mp member).elim early free
      obtain ⟨head, tail⟩ := Delimited.cut_of_notMem out plain cut
      exact .inl ⟨⟨before, head⟩, after, tail⟩
  · rintro (⟨⟨before, rfl⟩, after, rfl⟩ | ⟨before, after, rfl⟩)
    · exact ⟨before, after, by simp⟩
    · exact ⟨word ++ mark :: before, after, by simp⟩

theorem prefix_joined_iff {second word : List α} {ws : List (List α)} (free : mark ∉ second) :
    second <+: joined mark (word :: ws) ↔ second <+: word := by
  by_cases more : ws = []
  · subst more
    rw [joined_singleton]
  · rw [joined_cons more]
    constructor
    · rintro ⟨after, same⟩
      rcases List.append_eq_append_iff.mp same with ⟨rest, whole, _⟩ | ⟨rest, rfl, later⟩
      · exact ⟨rest, whole.symm⟩
      · cases rest with
        | nil => simp
        | cons c rest =>
          obtain ⟨rfl, _⟩ := List.cons.inj later
          exact absurd (List.mem_append_right _ List.mem_cons_self) free
    · exact fun start => start.trans (List.prefix_append _ _)

theorem phrase_joined_iff [DecidableEq α] {first second : List α} (free : mark ∉ first) (free' : mark ∉ second)
    {ws : List (List α)} (plain : ∀ word ∈ ws, mark ∉ word) :
    (first ++ mark :: second) <:+: joined mark ws ↔ ¬ws.IsChain fun word next => ¬Meets first second word next := by
  induction ws with
  | nil =>
    refine iff_of_false (fun found => ?_) (by simp)
    have nothing := List.infix_nil.mp found
    simp at nothing
  | cons word ws ih =>
    obtain ⟨out, later⟩ := List.forall_mem_cons.mp plain
    cases ws with
    | nil =>
      rw [joined_singleton]
      exact iff_of_false (fun found => out (found.subset (by simp))) (by simp)
    | cons next ws =>
      rw [joined_cons (List.cons_ne_nil _ _), phrase_infix_iff free out, ih later, prefix_joined_iff free',
        List.isChain_cons_cons, not_and_or, not_not, Meets]

/-- Somewhere two texts meet that both have words, one right behind the other, and the ends of a phrase fit there. -/
def Straddled (first second : List α) (texts : List (List (List α))) : Prop :=
  ∃ before text next after, texts.filter (fun text => !text.isEmpty) = before ++ text :: next :: after ∧
    ∃ word ∈ text.getLast?, ∃ follow ∈ next.head?, Meets first second word follow

theorem not_isChain_flatten_iff {first second : List α} {texts : List (List (List α))} :
    (¬texts.flatten.IsChain fun word next => ¬Meets first second word next) ↔
      (∃ text ∈ texts, ¬text.IsChain fun word next => ¬Meets first second word next) ∨ Straddled first second texts := by
  have present : [] ∉ texts.filter fun text => !text.isEmpty := by simp
  have same : texts.flatten = (texts.filter fun text => !text.isEmpty).flatten := List.flatten_filter_not_isEmpty.symm
  rw [same, List.isChain_flatten present, not_and_or, List.isChain_iff_forall_rel_of_append_cons_cons]
  refine or_congr ?_ ?_
  · constructor
    · intro broken
      push Not at broken
      obtain ⟨text, shown, broken⟩ := broken
      exact ⟨text, List.mem_of_mem_filter shown, broken⟩
    · rintro ⟨text, shown, broken⟩ all
      refine broken (all text (List.mem_filter.mpr ⟨shown, ?_⟩))
      cases text with
      | nil => exact absurd .nil broken
      | cons word rest => rfl
  · unfold Straddled
    push Not
    constructor
    · rintro ⟨text, next, before, after, split, word, last, follow, head, meets⟩
      exact ⟨before, text, next, after, split, word, last, follow, head, meets⟩
    · rintro ⟨before, text, next, after, split, word, last, follow, head, meets⟩
      exact ⟨text, next, before, after, split, word, last, follow, head, meets⟩

/-! ### Words with a boundary on each side -/

def startsWord (fits : α → α → Bool) (letter : α → Bool) : List α → List α → Bool
  | [], text => !text.head?.any letter
  | _ :: _, [] => false
  | n :: needle, c :: text => fits n c && startsWord fits letter needle text

/-- The needle is somewhere in the text with no letter before or behind it; the flag is that of the place before the text. -/
def holdsWord (fits : α → α → Bool) (letter : α → Bool) (needle : List α) : Bool → List α → Bool
  | edge, [] => edge && startsWord fits letter needle []
  | edge, c :: text => (edge && startsWord fits letter needle (c :: text)) || holdsWord fits letter needle (!letter c) text

variable {fits : α → α → Bool} {letter : α → Bool}

theorem startsWord_append {needle : List α} (quiet : letter mark = false) (unfit : ∀ n ∈ needle, fits n mark = false)
    (text rest : List α) : startsWord fits letter needle (text ++ mark :: rest) = startsWord fits letter needle text := by
  induction needle generalizing text with
  | nil => cases text <;> simp [startsWord, quiet]
  | cons n needle ih =>
    obtain ⟨first, later⟩ := List.forall_mem_cons.mp unfit
    cases text with
    | nil => simp [startsWord, first]
    | cons c text => rw [List.cons_append, startsWord, startsWord, ih later]

theorem holdsWord_append {needle : List α} (quiet : letter mark = false) (unfit : ∀ n ∈ needle, fits n mark = false)
    (edge : Bool) (text rest : List α) : holdsWord fits letter needle edge (text ++ mark :: rest) =
      (holdsWord fits letter needle edge text || holdsWord fits letter needle true rest) := by
  induction text generalizing edge with
  | nil =>
    have none : startsWord fits letter needle (mark :: rest) = startsWord fits letter needle [] :=
      startsWord_append quiet unfit [] rest
    rw [List.nil_append, holdsWord, holdsWord, none, quiet, Bool.not_false]
  | cons c text ih =>
    rw [List.cons_append, holdsWord, holdsWord, ih, Bool.or_assoc, ← List.cons_append, startsWord_append quiet unfit]

theorem holdsWord_joined {needle : List α} (quiet : letter mark = false) (unfit : ∀ n ∈ needle, fits n mark = false)
    (present : needle ≠ []) (ws : List (List α)) :
    holdsWord fits letter needle true (joined mark ws) = ws.any (holdsWord fits letter needle true) := by
  induction ws with
  | nil =>
    obtain ⟨n, rest, rfl⟩ := List.exists_cons_of_ne_nil present
    rfl
  | cons word ws ih =>
    by_cases more : ws = []
    · subst more
      rw [joined_singleton, List.any_cons, List.any_nil, Bool.or_false]
    · rw [joined_cons more, holdsWord_append quiet unfit, ih, List.any_cons]

end Words
