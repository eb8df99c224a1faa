import Mathlib.Data.List.Nodup

/-! Lists of rows that carry a unique key, as a table with a unique index does. -/

namespace KeyedRows

variable {α κ : Type} {key : α → κ}

theorem nodup_append_fresh {items : List α} {item : α} (nodup : (items.map key).Nodup)
    (fresh : key item ∉ items.map key) : ((items ++ [item]).map key).Nodup := by
  rw [List.map_append, List.nodup_append]
  refine ⟨nodup, List.nodup_singleton _, ?_⟩
  rintro old member new single rfl
  exact fresh (List.mem_singleton.mp single ▸ member)

theorem nodup_map {items : List α} {change : α → α} (nodup : (items.map key).Nodup)
    (kept : ∀ item, key (change item) = key item) : ((items.map change).map key).Nodup := by
  have same : key ∘ change = key := funext kept
  rwa [List.map_map, same]

variable [DecidableEq κ]

theorem find?_eq_some_iff {items : List α} {k : κ} {item : α} (nodup : (items.map key).Nodup) :
    items.find? (fun row => key row = k) = some item ↔ item ∈ items ∧ key item = k := by
  constructor
  · intro found
    exact ⟨List.mem_of_find?_eq_some found, of_decide_eq_true (List.find?_some found :)⟩
  · rintro ⟨member, rfl⟩
    induction items with
    | nil => cases member
    | cons first rest ih =>
      simp only [List.map_cons, List.nodup_cons] at nodup
      rw [List.find?_cons]
      rcases List.mem_cons.mp member with rfl | later
      · simp only [decide_true]
      · have differs : key first ≠ key item := fun same => nodup.1 (same ▸ List.mem_map_of_mem later)
        simp only [differs, decide_false]
        exact ih nodup.2 later

theorem find?_eq_none_iff {items : List α} {k : κ} :
    items.find? (fun row => key row = k) = none ↔ k ∉ items.map key := by
  simp only [List.find?_eq_none, decide_eq_true_eq, List.mem_map, not_exists, not_and]

theorem find?_map {items : List α} {change : α → α} {k : κ} (kept : ∀ item, key (change item) = key item) :
    (items.map change).find? (fun row => key row = k) = (items.find? fun row => key row = k).map change := by
  rw [List.find?_map]
  congr 2
  exact funext fun item => by simp only [Function.comp_apply, kept item]

theorem find?_append_fresh {items : List α} {item : α} {k : κ} (fresh : key item ∉ items.map key) :
    (items ++ [item]).find? (fun row => key row = k) =
      if key item = k then some item else items.find? fun row => key row = k := by
  rw [List.find?_append, List.find?_singleton]
  by_cases same : key item = k
  · rw [find?_eq_none_iff.mpr (same ▸ fresh)]
    simp only [same, decide_true, if_true, Option.none_or]
  · simp only [same, decide_false, Bool.false_eq_true, if_false, Option.or_none]

end KeyedRows
