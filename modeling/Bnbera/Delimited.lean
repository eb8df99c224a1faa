import Mathlib.Data.List.Basic

/-! Texts that can be told apart although something else follows them. -/

namespace Delimited

variable {α : Type}

def Splits (ends : List α → Prop) (s t : List α) : Prop :=
  ∀ rest rest', ends rest → ends rest' → s ++ rest = t ++ rest' → s = t ∧ rest = rest'

def following (separator close : α) : List (List α) → List α
  | [] => [close]
  | item :: items => separator :: item ++ following separator close items

def enclosed (separator close : α) : List (List α) → List α
  | [] => [close]
  | item :: items => item ++ following separator close items

theorem enclosed_eq_intercalate (separator close : α) (items : List (List α)) :
    enclosed separator close items = [separator].intercalate items ++ [close] := by
  cases items with
  | nil => rfl
  | cons first items =>
    induction items generalizing first with
    | nil => simp only [enclosed, following, List.intercalate_singleton]
    | cons second items ih =>
      have inner := ih second
      simp only [enclosed, following] at inner ⊢
      rw [List.intercalate_cons_cons, List.append_assoc, List.append_assoc, ← inner]
      rfl

variable {ends : List α → Prop} {separator close : α}

theorem following_ends (afterSeparator : ∀ rest, ends (separator :: rest)) (afterClose : ∀ rest, ends (close :: rest))
    (items : List (List α)) (rest : List α) : ends (following separator close items ++ rest) := by
  cases items with
  | nil => exact afterClose rest
  | cons item items => exact afterSeparator _

theorem following_splits (differ : separator ≠ close) (afterSeparator : ∀ rest, ends (separator :: rest))
    (afterClose : ∀ rest, ends (close :: rest)) {xs ys : List (List α)}
    (each : ∀ x ∈ xs, ∀ y ∈ ys, Splits ends x y) {rest rest' : List α}
    (same : following separator close xs ++ rest = following separator close ys ++ rest') :
    xs = ys ∧ rest = rest' := by
  induction xs generalizing ys with
  | nil =>
    cases ys with
    | nil => exact ⟨rfl, (List.cons.inj same).2⟩
    | cons y ys => exact absurd (List.cons.inj same).1.symm differ
  | cons x xs ih =>
    cases ys with
    | nil => exact absurd (List.cons.inj same).1 differ
    | cons y ys =>
      simp only [following, List.cons_append, List.append_assoc, List.cons.injEq, true_and] at same
      obtain ⟨first, others⟩ := each x List.mem_cons_self y List.mem_cons_self _ _
        (following_ends afterSeparator afterClose xs rest) (following_ends afterSeparator afterClose ys rest') same
      obtain ⟨later, tail⟩ := ih (fun a inXs b inYs => each a (List.mem_cons_of_mem _ inXs) b
        (List.mem_cons_of_mem _ inYs)) others
      exact ⟨by rw [first, later], tail⟩

theorem enclosed_splits (differ : separator ≠ close) (afterSeparator : ∀ rest, ends (separator :: rest))
    (afterClose : ∀ rest, ends (close :: rest)) {xs ys : List (List α)}
    (each : ∀ x ∈ xs, ∀ y ∈ ys, Splits ends x y)
    (starts : ∀ item ∈ xs ++ ys, ∃ first tail, item = first :: tail ∧ first ≠ close) {rest rest' : List α}
    (same : enclosed separator close xs ++ rest = enclosed separator close ys ++ rest') :
    xs = ys ∧ rest = rest' := by
  cases xs with
  | nil =>
    cases ys with
    | nil => exact ⟨rfl, (List.cons.inj same).2⟩
    | cons y ys =>
      obtain ⟨first, tail, rfl, other⟩ := starts y (by simp)
      exact absurd (List.cons.inj same).1.symm other
  | cons x xs =>
    cases ys with
    | nil =>
      obtain ⟨first, tail, rfl, other⟩ := starts x (by simp)
      exact absurd (List.cons.inj same).1 other
    | cons y ys =>
      simp only [enclosed, List.append_assoc] at same
      obtain ⟨first, others⟩ := each x List.mem_cons_self y List.mem_cons_self _ _
        (following_ends afterSeparator afterClose xs rest) (following_ends afterSeparator afterClose ys rest') same
      obtain ⟨later, tail⟩ := following_splits differ afterSeparator afterClose (fun a inXs b inYs =>
        each a (List.mem_cons_of_mem _ inXs) b (List.mem_cons_of_mem _ inYs)) others
      exact ⟨by rw [first, later], tail⟩

theorem splits_of_alphabet {alphabet : α → Bool} (outside : ∀ c rest, ends (c :: rest) → alphabet c = false)
    {s t : List α} (inS : s.all alphabet) (inT : t.all alphabet) : Splits ends s t := by
  intro rest rest' ended ended' same
  induction s generalizing t with
  | nil =>
    cases t with
    | nil => exact ⟨rfl, same⟩
    | cons c t =>
      have other := outside c (t ++ rest') (by
        have whole : rest = c :: (t ++ rest') := same
        exact whole ▸ ended)
      simp only [List.all_cons, other, Bool.false_and, Bool.false_eq_true] at inT
  | cons a s ih =>
    cases t with
    | nil =>
      have other := outside a (s ++ rest) (by
        have whole : a :: (s ++ rest) = rest' := same
        exact whole ▸ ended')
      simp only [List.all_cons, other, Bool.false_and, Bool.false_eq_true] at inS
    | cons c t =>
      obtain ⟨first, others⟩ := List.cons.inj same
      simp only [List.all_cons, Bool.and_eq_true] at inS inT
      obtain ⟨later, tail⟩ := ih inS.2 inT.2 others
      exact ⟨by rw [first, later], tail⟩

section
variable [DecidableEq α] {mark : α}

def terminated (mark : α) (items : List (List α)) : List α := items.flatMap (· ++ [mark])

omit [DecidableEq α] in
@[simp] theorem terminated_nil : terminated mark [] = [] := rfl

omit [DecidableEq α] in
@[simp] theorem terminated_cons (item : List α) (items : List (List α)) :
    terminated mark (item :: items) = item ++ mark :: terminated mark items := by
  rw [terminated, List.flatMap_cons, List.append_assoc]
  rfl

omit [DecidableEq α] in
theorem terminated_append (items more : List (List α)) :
    terminated mark (items ++ more) = terminated mark items ++ terminated mark more := List.flatMap_append

omit [DecidableEq α] in
theorem terminated_eq_intercalate (first : List α) (items : List (List α)) :
    [mark].intercalate (first :: items) ++ [mark] = terminated mark (first :: items) := by
  induction items generalizing first with
  | nil => rw [List.intercalate_singleton, terminated_cons, terminated_nil]
  | cons second items ih => rw [List.intercalate_cons_cons, terminated_cons, ← ih second, List.append_assoc, List.append_assoc,
      List.singleton_append]

theorem cut_of_count {a b rest rest' : List α} (count : a.count mark = b.count mark)
    (same : a ++ mark :: rest = b ++ mark :: rest') : a = b ∧ rest = rest' := by
  induction a generalizing b with
  | nil =>
    cases b with
    | nil => exact ⟨rfl, (List.cons.inj same).2⟩
    | cons c b =>
      obtain ⟨rfl, _⟩ := List.cons.inj same
      rw [List.count_nil, List.count_cons_self] at count
      exact absurd count (Nat.succ_ne_zero _).symm
  | cons c a ih =>
    cases b with
    | nil =>
      obtain ⟨rfl, _⟩ := List.cons.inj same
      rw [List.count_nil, List.count_cons_self] at count
      exact absurd count (Nat.succ_ne_zero _)
    | cons d b =>
      obtain ⟨rfl, tails⟩ := List.cons.inj same
      rw [List.count_cons, List.count_cons, Nat.add_right_cancel_iff] at count
      obtain ⟨rfl, rests⟩ := ih count tails
      exact ⟨rfl, rests⟩

theorem cut_of_notMem {a b rest rest' : List α} (free : mark ∉ a) (free' : mark ∉ b)
    (same : a ++ mark :: rest = b ++ mark :: rest') : a = b ∧ rest = rest' :=
  cut_of_count ((List.count_eq_zero.mpr free).trans (List.count_eq_zero.mpr free').symm) same

theorem terminated_append_inj {xs ys more others : List (List α)} (counts : xs.map (List.count mark) = ys.map (List.count mark))
    (same : terminated mark (xs ++ more) = terminated mark (ys ++ others)) :
    xs = ys ∧ terminated mark more = terminated mark others := by
  induction xs generalizing ys with
  | nil =>
    cases ys with
    | nil => exact ⟨rfl, same⟩
    | cons y ys => cases counts
  | cons x xs ih =>
    cases ys with
    | nil => cases counts
    | cons y ys =>
      obtain ⟨count, later⟩ := List.cons.inj counts
      simp only [List.cons_append, terminated_cons] at same
      obtain ⟨rfl, rest⟩ := cut_of_count count same
      obtain ⟨rfl, ends⟩ := ih later rest
      exact ⟨rfl, ends⟩

theorem terminated_inj {xs ys : List (List α)} (counts : xs.map (List.count mark) = ys.map (List.count mark))
    (same : terminated mark xs = terminated mark ys) : xs = ys :=
  (@terminated_append_inj α _ mark xs ys [] [] counts (by rwa [List.append_nil, List.append_nil])).1

end

theorem splitOn_intercalate_cons [BEq α] [LawfulBEq α] (mark : α) (first : List α) (items : List (List α)) :
    ([mark].intercalate (first :: items)).splitOn mark = (first :: items).flatMap (·.splitOn mark) := by
  induction items generalizing first with
  | nil => rw [List.intercalate_singleton, List.flatMap_singleton]
  | cons second items ih =>
    rw [List.intercalate_cons_cons, List.append_assoc, List.singleton_append, List.splitOn_append_cons_self, ih second,
      List.flatMap_cons, List.flatMap_cons, List.flatMap_cons]

theorem repeated_eq_append {a b : List (List α)} {v first second third fourth fifth sixth : List α} (present : first ≠ [])
    (owned : second ≠ []) (same : a ++ [v, [], [], [], []] ++ a = b ++ [first, second, third, fourth, fifth, sixth]) :
    ∃ before, a = before ++ [first, second, third, fourth, fifth, sixth] ∧ b = a ++ [v, [], [], [], []] ++ before := by
  rcases List.append_eq_append_iff.mp same with ⟨before, whole, ending⟩ | ⟨early, whole, ending⟩
  · exact ⟨before, ending, whole⟩
  · have lengths := congrArg List.length whole
    have few := congrArg List.length ending
    simp only [List.length_append, List.length_cons, List.length_nil] at lengths few
    have within : early <:+ [v, [], [], [], []] :=
      List.suffix_of_suffix_length_le ⟨b, rfl⟩ ⟨a, whole⟩ (by simp only [List.length_cons, List.length_nil]; omega)
    -- The six pieces would begin among the empty ones, or with `v` and then an empty one.
    simp only [List.suffix_cons_iff, List.suffix_nil] at within
    rcases within with rfl | rfl | rfl | rfl | rfl | rfl
    · exact absurd (by simpa using (List.cons.inj (List.cons.inj ending).2).1) owned
    · exact absurd (List.cons.inj ending).1 present
    · exact absurd (List.cons.inj ending).1 present
    · exact absurd (List.cons.inj ending).1 present
    · exact absurd (List.cons.inj ending).1 present
    · exact ⟨[], ending.symm, by rw [whole, List.append_nil, List.append_nil]⟩

end Delimited
