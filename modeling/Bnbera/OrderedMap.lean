import Mathlib.Data.List.Nodup

/-- A map that lists its entries in the order in which their keys were first set. -/
structure OrderedMap (κ α : Type) where
  entries : List (κ × α)
  nodup : (entries.map Prod.fst).Nodup

namespace OrderedMap

variable {κ α : Type} [DecidableEq κ] {key other : κ} {value : α}

def empty : OrderedMap κ α := ⟨[], List.nodup_nil⟩

def get (items : OrderedMap κ α) (key : κ) : Option α := items.entries.lookup key

def values (items : OrderedMap κ α) : List α := items.entries.map Prod.snd

def put : List (κ × α) → κ → α → List (κ × α)
  | [], key, value => [(key, value)]
  | entry :: rest, key, value => if entry.1 = key then (key, value) :: rest else entry :: put rest key value

theorem put_keys (entries : List (κ × α)) (key : κ) (value : α) :
    (put entries key value).map Prod.fst =
      if key ∈ entries.map Prod.fst then entries.map Prod.fst else entries.map Prod.fst ++ [key] := by
  induction entries with
  | nil => rfl
  | cons entry rest ih =>
    simp only [put]
    by_cases same : entry.1 = key
    · rw [if_pos same, List.map_cons, List.map_cons, ← same, if_pos List.mem_cons_self]
    · rw [if_neg same, List.map_cons, List.map_cons, ih]
      by_cases member : key ∈ rest.map Prod.fst
      · rw [if_pos member, if_pos (List.mem_cons_of_mem _ member)]
      · have absent : key ∉ entry.1 :: rest.map Prod.fst :=
          fun found => (List.mem_cons.mp found).elim (fun first => same first.symm) member
        rw [if_neg member, if_neg absent]
        rfl

def set (items : OrderedMap κ α) (key : κ) (value : α) : OrderedMap κ α where
  entries := put items.entries key value
  nodup := by
    rw [put_keys]
    split
    · exact items.nodup
    · next fresh =>
      rw [List.nodup_append]
      exact ⟨items.nodup, List.nodup_singleton _, fun old member new single same =>
        fresh (List.mem_singleton.mp single ▸ same ▸ member)⟩

def delete (items : OrderedMap κ α) (key : κ) : OrderedMap κ α where
  entries := items.entries.filter fun entry => entry.1 ≠ key
  nodup := items.nodup.sublist (List.filter_sublist.map _)

theorem lookup_cons {entry : κ × α} {rest : List (κ × α)} :
    (entry :: rest).lookup key = if key = entry.1 then some entry.2 else rest.lookup key := by
  rw [List.lookup_cons]
  by_cases same : key = entry.1
  · rw [if_pos same, beq_iff_eq.mpr same]
  · rw [if_neg same, beq_false_of_ne same]

theorem lookup_put (entries : List (κ × α)) (key other : κ) (value : α) :
    (put entries key value).lookup other = if other = key then some value else entries.lookup other := by
  induction entries with
  | nil => exact lookup_cons
  | cons entry rest ih =>
    simp only [put]
    by_cases same : entry.1 = key
    · rw [if_pos same, lookup_cons, lookup_cons, same]
      by_cases found : other = key
      · rw [if_pos found, if_pos found]
      · rw [if_neg found, if_neg found, if_neg found]
    · rw [if_neg same, lookup_cons, lookup_cons, ih]
      by_cases found : other = key
      · have apart : other ≠ entry.1 := fun reached => same (reached.symm.trans found)
        rw [if_neg apart, if_pos found, if_pos found]
      · rw [if_neg found, if_neg found]

@[simp] theorem get_empty : (empty : OrderedMap κ α).get key = none := rfl

@[simp] theorem get_set {items : OrderedMap κ α} :
    (items.set key value).get other = if other = key then some value else items.get other :=
  lookup_put _ _ _ _

theorem get_set_self {items : OrderedMap κ α} : (items.set key value).get key = some value := by
  rw [get_set, if_pos rfl]

theorem get_set_ne {items : OrderedMap κ α} (apart : other ≠ key) :
    (items.set key value).get other = items.get other := by
  rw [get_set, if_neg apart]

theorem lookup_filter_ne (entries : List (κ × α)) (key other : κ) :
    (entries.filter fun entry => entry.1 ≠ key).lookup other =
      if other = key then none else entries.lookup other := by
  induction entries with
  | nil => exact (ite_self none).symm
  | cons entry rest ih =>
    rw [List.filter_cons, lookup_cons]
    by_cases gone : entry.1 = key
    · rw [if_neg (by simpa using gone), ih, gone]
      by_cases found : other = key
      · rw [if_pos found, if_pos found]
      · rw [if_neg found, if_neg found, if_neg found]
    · rw [if_pos (by simpa using gone), lookup_cons, ih]
      by_cases found : other = key
      · have apart : other ≠ entry.1 := fun reached => gone (reached.symm.trans found)
        rw [if_pos found, if_pos found, if_neg apart]
      · rw [if_neg found, if_neg found]

@[simp] theorem get_delete {items : OrderedMap κ α} :
    (items.delete key).get other = if other = key then none else items.get other :=
  lookup_filter_ne _ _ _

theorem lookup_eq_some_iff {entries : List (κ × α)} (nodup : (entries.map Prod.fst).Nodup) :
    entries.lookup key = some value ↔ (key, value) ∈ entries := by
  induction entries with
  | nil => exact ⟨nofun, nofun⟩
  | cons entry rest ih =>
    obtain ⟨k, v⟩ := entry
    simp only [List.map_cons, List.nodup_cons] at nodup
    rw [lookup_cons, List.mem_cons, Prod.mk.injEq, ← ih nodup.2]
    by_cases same : key = k
    · have absent : rest.lookup key ≠ some value := by
        intro found
        have member := List.mem_map_of_mem (f := Prod.fst) ((ih nodup.2).mp found)
        exact nodup.1 (same ▸ member)
      rw [if_pos same, Option.some.injEq]
      exact ⟨fun found => .inl ⟨same, found.symm⟩, fun found => found.elim (fun first => first.2.symm) (absurd · absent)⟩
    · rw [if_neg same]
      exact ⟨.inr, fun found => found.resolve_left fun first => same first.1⟩

theorem get_eq_some_iff {items : OrderedMap κ α} : items.get key = some value ↔ (key, value) ∈ items.entries :=
  lookup_eq_some_iff items.nodup

theorem mem_values_iff {items : OrderedMap κ α} : value ∈ items.values ↔ ∃ key, items.get key = some value := by
  simp only [values, List.mem_map, get_eq_some_iff, Prod.exists, exists_eq_right]

theorem put_fresh {entries : List (κ × α)} (fresh : entries.lookup key = none) :
    put entries key value = entries ++ [(key, value)] := by
  induction entries with
  | nil => rfl
  | cons entry rest ih =>
    rw [lookup_cons] at fresh
    by_cases same : key = entry.1
    · rw [if_pos same] at fresh
      cases fresh
    · rw [if_neg same] at fresh
      rw [put, if_neg (Ne.symm same), ih fresh]
      rfl

theorem values_set_fresh {items : OrderedMap κ α} (fresh : items.get key = none) :
    (items.set key value).values = items.values ++ [value] := by
  have appended : put items.entries key value = items.entries ++ [(key, value)] := put_fresh fresh
  change (put items.entries key value).map Prod.snd = _
  rw [appended, List.map_append]
  rfl

theorem keys_set_fresh {items : OrderedMap κ α} (fresh : items.get key = none) :
    (items.set key value).entries.map Prod.fst = items.entries.map Prod.fst ++ [key] := by
  have appended : put items.entries key value = items.entries ++ [(key, value)] := put_fresh fresh
  change (put items.entries key value).map Prod.fst = _
  rw [appended, List.map_append]
  rfl

theorem mem_values_set {items : OrderedMap κ α} : value ∈ (items.set key value).values :=
  mem_values_iff.mpr ⟨key, get_set_self⟩

section
variable {ι : Type} [DecidableEq ι] {index : OrderedMap ι κ} {items : OrderedMap κ α} {label : α → ι}

def IsIndex (index : OrderedMap ι κ) (items : OrderedMap κ α) (label : α → ι) : Prop :=
  ∀ i key, index.get i = some key ↔ ∃ value, items.get key = some value ∧ label value = i

theorem isIndex_empty : IsIndex (empty : OrderedMap ι κ) (empty : OrderedMap κ α) label := by
  intro i key
  rw [get_empty, get_empty]
  exact ⟨fun found => (nomatch found), fun ⟨_, found, _⟩ => (nomatch found)⟩

theorem IsIndex.injective {other : κ} {left right : α} (indexed : IsIndex index items label)
    (first : items.get key = some left) (second : items.get other = some right) (same : label left = label right) :
    key = other := by
  have owner := (indexed (label left) key).mpr ⟨left, first, rfl⟩
  rw [(indexed (label left) other).mpr ⟨right, second, same.symm⟩] at owner
  exact (Option.some.inj owner).symm

/-- Setting a value whose label is free, after the label it had under its key is dropped. -/
theorem IsIndex.set_of_free {pruned : OrderedMap ι κ} (indexed : IsIndex index items label)
    (kept : ∀ i owner, pruned.get i = some owner ↔ index.get i = some owner ∧ owner ≠ key)
    (free : ∀ owner, index.get (label value) = some owner → owner = key) :
    IsIndex (pruned.set (label value) key) (items.set key value) label := by
  intro i owner
  rw [get_set, get_set]
  by_cases mine : owner = key
  · subst mine
    rw [if_pos rfl]
    by_cases same : i = label value
    · rw [if_pos same]
      exact ⟨fun _ => ⟨value, rfl, same.symm⟩, fun _ => rfl⟩
    · rw [if_neg same]
      constructor
      · intro found
        exact absurd rfl ((kept i owner).mp found).2
      · rintro ⟨stored, found, labelled⟩
        cases Option.some.inj found
        exact absurd labelled.symm same
  · rw [if_neg mine]
    by_cases same : i = label value
    · rw [if_pos same]
      constructor
      · intro found
        exact absurd (Option.some.inj found).symm mine
      · rintro ⟨stored, found, labelled⟩
        have owned := (indexed i owner).mpr ⟨stored, found, labelled⟩
        rw [same] at owned
        exact absurd (free owner owned) mine
    · rw [if_neg same, kept i owner, indexed i owner]
      exact ⟨fun both => both.1, fun found => ⟨found, mine⟩⟩

theorem IsIndex.set_fresh (indexed : IsIndex index items label) (fresh : items.get key = none)
    (free : ∀ owner, index.get (label value) = some owner → owner = key) :
    IsIndex (index.set (label value) key) (items.set key value) label := by
  refine indexed.set_of_free (fun i owner => ⟨fun found => ⟨found, ?_⟩, fun both => both.1⟩) free
  rintro rfl
  obtain ⟨stored, found, _⟩ := (indexed i owner).mp found
  rw [fresh] at found
  cases found

theorem IsIndex.set_replaced {old : α} (indexed : IsIndex index items label) (stored : items.get key = some old)
    (free : ∀ owner, index.get (label value) = some owner → owner = key) :
    IsIndex ((index.delete (label old)).set (label value) key) (items.set key value) label := by
  refine indexed.set_of_free (fun i owner => ?_) free
  rw [get_delete]
  by_cases dropped : i = label old
  · rw [if_pos dropped]
    constructor
    · exact fun found => (nomatch found)
    · rintro ⟨found, apart⟩
      rw [dropped, (indexed (label old) key).mpr ⟨old, stored, rfl⟩] at found
      exact absurd (Option.some.inj found).symm apart
  · rw [if_neg dropped]
    refine ⟨fun found => ⟨found, ?_⟩, fun both => both.1⟩
    rintro rfl
    obtain ⟨other, present, labelled⟩ := (indexed i owner).mp found
    rw [stored] at present
    cases Option.some.inj present
    exact dropped labelled.symm

end

end OrderedMap
