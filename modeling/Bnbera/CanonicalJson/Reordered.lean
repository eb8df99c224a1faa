import Bnbera.CanonicalJson.Stringify

namespace Bnbera

mutual

/-- One JSON value, of which every object may list its fields in another order. -/
inductive SameJson : Json → Json → Prop
  | null : SameJson .null .null
  | bool (value : Bool) : SameJson (.bool value) (.bool value)
  | num (text : String) : SameJson (.num text) (.num text)
  | str (text : String) : SameJson (.str text) (.str text)
  | arr {items items' : List Json} : SameItems items items' → SameJson (.arr items) (.arr items')
  | obj {fields middle fields' : List (String × Json)} : SameFields fields middle → middle.Perm fields' →
      SameJson (.obj fields) (.obj fields')

inductive SameItems : List Json → List Json → Prop
  | nil : SameItems [] []
  | cons {item item' : Json} {rest rest' : List Json} : SameJson item item' → SameItems rest rest' →
      SameItems (item :: rest) (item' :: rest')

inductive SameFields : List (String × Json) → List (String × Json) → Prop
  | nil : SameFields [] []
  | cons {key : String} {value value' : Json} {rest rest' : List (String × Json)} : SameJson value value' →
      SameFields rest rest' → SameFields ((key, value) :: rest) ((key, value') :: rest')

end

mutual

theorem SameJson.refl : ∀ value : Json, SameJson value value
  | .null => .null
  | .bool value => .bool value
  | .num text => .num text
  | .str text => .str text
  | .arr items => .arr (SameItems.refl items)
  | .obj fields => .obj (SameFields.refl fields) (List.Perm.refl _)

theorem SameItems.refl : ∀ items : List Json, SameItems items items
  | [] => .nil
  | item :: rest => .cons (SameJson.refl item) (SameItems.refl rest)

theorem SameFields.refl : ∀ fields : List (String × Json), SameFields fields fields
  | [] => .nil
  | (_, value) :: rest => .cons (SameJson.refl value) (SameFields.refl rest)

end

theorem SameFields.keys {fields fields' : List (String × Json)} (same : SameFields fields fields') :
    fields.map (·.1) = fields'.map (·.1) := by
  induction fields generalizing fields' with
  | nil =>
    cases same
    rfl
  | cons field rest ih =>
    cases same with
    | cons _ others => rw [List.map_cons, List.map_cons, ih others]

theorem SameFields.field {fields fields' : List (String × Json)} (same : SameFields fields fields') (key : String) :
    Option.Rel SameJson (fieldOf fields key) (fieldOf fields' key) := by
  induction fields generalizing fields' with
  | nil =>
    cases same
    exact .none
  | cons field rest ih =>
    cases same with
    | @cons k value value' _ _ head others =>
      rw [fieldOf_cons, fieldOf_cons]
      by_cases found : k = key
      · rw [if_pos found, if_pos found]
        exact .some head
      · rw [if_neg found, if_neg found]
        exact ih others

theorem fieldOf_none_iff {fields : List (String × Json)} {key : String} :
    fieldOf fields key = none ↔ key ∉ fields.map (·.1) := by
  induction fields with
  | nil => simp only [fieldOf_nil, List.map_nil, List.not_mem_nil, not_false_eq_true]
  | cons field rest ih =>
    obtain ⟨k, value⟩ := field
    rw [fieldOf_cons, List.map_cons, List.mem_cons, not_or]
    by_cases found : k = key
    · rw [if_pos found]
      exact ⟨fun absent => (nomatch absent), fun absent => absurd found.symm absent.1⟩
    · rw [if_neg found, ih]
      exact ⟨fun absent => ⟨fun other => found other.symm, absent⟩, fun absent => absent.2⟩

theorem fieldOf_perm {fields fields' : List (String × Json)} (nodup : (fields.map (·.1)).Nodup)
    (perm : fields.Perm fields') (key : String) : fieldOf fields key = fieldOf fields' key := by
  induction perm with
  | nil => rfl
  | cons field _ ih =>
    obtain ⟨k, value⟩ := field
    rw [fieldOf_cons, fieldOf_cons, ih (List.nodup_cons.mp nodup).2]
  | swap first second rest =>
    obtain ⟨k, value⟩ := first
    obtain ⟨k', value'⟩ := second
    simp only [List.map_cons, List.nodup_cons, List.mem_cons, not_or] at nodup
    simp only [fieldOf_cons]
    by_cases found : k' = key
    · rw [if_pos found, if_neg fun other => nodup.1.1 (found.trans other.symm), if_pos found]
    · rw [if_neg found, if_neg found]
  | trans first _ ih ih' => exact (ih nodup).trans (ih' ((first.map (·.1)).nodup_iff.mp nodup))

theorem SameJson.fields {fields : List (String × Json)} {value : Json} (nodup : (fields.map (·.1)).Nodup)
    (same : SameJson (.obj fields) value) :
    ∃ fields', value = .obj fields' ∧ ∀ key, Option.Rel SameJson (fieldOf fields key) (fieldOf fields' key) := by
  cases same with
  | @obj _ middle fields' pointwise perm =>
    refine ⟨fields', rfl, fun key => ?_⟩
    rw [← fieldOf_perm (pointwise.keys ▸ nodup) perm key]
    exact pointwise.field key

theorem field_congr {β : Type} {fields fields' : List (String × Json)} {seen : Option Json → β}
    (blind : ∀ value value', SameJson value value' → seen (some value) = seen (some value')) {key : String}
    (same : Option.Rel SameJson (fieldOf fields key) (fieldOf fields' key)) :
    seen (fieldOf fields key) = seen (fieldOf fields' key) := by
  revert same
  generalize fieldOf fields key = value
  generalize fieldOf fields' key = value'
  rintro (same | _)
  · exact blind _ _ same
  · rfl

theorem wellFormedFields_iff {fields : List (String × Json)} :
    wellFormedFields fields = true ↔ ∀ field ∈ fields, field.2.wellFormed = true := by
  induction fields with
  | nil => simp only [wellFormedFields, List.not_mem_nil, false_implies, implies_true]
  | cons field rest ih => simp only [wellFormedFields, Bool.and_eq_true, ih, List.forall_mem_cons]

mutual

theorem SameJson.wellFormed : ∀ {value value' : Json}, SameJson value value' → value.wellFormed = true →
    value'.wellFormed = true
  | _, _, .null, held => held
  | _, _, .bool _, held => held
  | _, _, .num _, held => held
  | _, _, .str _, held => held
  | _, _, .arr items, held => items.wellFormed held
  | _, _, .obj pointwise perm, held => by
    simp only [Json.wellFormed, Bool.and_eq_true, decide_eq_true_eq] at held ⊢
    refine ⟨(perm.map (·.1)).nodup_iff.mp (pointwise.keys ▸ held.1), ?_⟩
    have middle := pointwise.wellFormed held.2
    rw [wellFormedFields_iff] at middle ⊢
    exact fun field member => middle field (perm.mem_iff.mpr member)

theorem SameItems.wellFormed : ∀ {items items' : List Json}, SameItems items items' → wellFormedItems items = true →
    wellFormedItems items' = true
  | _, _, .nil, held => held
  | _, _, .cons head rest, held => by
    simp only [wellFormedItems, Bool.and_eq_true] at held ⊢
    exact ⟨head.wellFormed held.1, rest.wellFormed held.2⟩

theorem SameFields.wellFormed : ∀ {fields fields' : List (String × Json)}, SameFields fields fields' →
    wellFormedFields fields = true → wellFormedFields fields' = true
  | _, _, .nil, held => held
  | _, _, .cons head rest, held => by
    simp only [wellFormedFields, Bool.and_eq_true] at held ⊢
    exact ⟨head.wellFormed held.1, rest.wellFormed held.2⟩

end

end Bnbera
