import Mathlib.Data.List.Sort
import Bnbera.JsonText.Quoting

/-! Nested arrays and objects over any leaves, and what does not depend on the order of their fields. -/

namespace Bnbera.JsonText

/-- The fields of an object stand in the order in which its keys are listed. -/
inductive Tree (α : Type)
  | leaf (value : α)
  | arr (items : List (Tree α))
  | obj (fields : List (Text × Tree α))

structure Order where
  list : {γ : Type} → List (Text × γ) → List (Text × γ)
  natural : ∀ {γ δ : Type} (change : γ → δ) fields, list (fields.map (Prod.map id change)) = (list fields).map (Prod.map id change)

section
variable {α β : Type}

def keys (fields : List (Text × α)) : List Text := fields.map Prod.fst

theorem mem_keys {fields : List (Text × α)} {key : Text} : key ∈ keys fields ↔ ∃ value, (key, value) ∈ fields := by
  simp [keys]

theorem keys_map (change : α → β) (fields : List (Text × α)) : keys (fields.map (Prod.map id change)) = keys fields := by
  simp [keys]

theorem eq_of_key {fields : List (Text × α)} {key : Text} {value value' : α} (distinct : (keys fields).Nodup)
    (member : (key, value) ∈ fields) (member' : (key, value') ∈ fields) : value = value' :=
  (Prod.mk.inj (List.inj_on_of_nodup_map distinct member member' rfl)).2

end

def Order.asIs : Order where
  list fields := fields
  natural _ _ := rfl

theorem Order.asIs_list {γ : Type} (fields : List (Text × γ)) : Order.asIs.list fields = fields := rfl

def Order.then (first second : Order) : Order where
  list fields := second.list (first.list fields)
  natural change fields := by rw [first.natural, second.natural]

def sortBy {κ γ : Type} [LinearOrder κ] (compared : Text → κ) (fields : List (Text × γ)) : List (Text × γ) :=
  fields.insertionSort fun a b => compared a.1 ≤ compared b.1

def Order.by {κ : Type} [LinearOrder κ] (compared : Text → κ) : Order where
  list fields := sortBy compared fields
  natural change fields := (List.map_insertionSort _ _ (Prod.map id change) fields fun _ _ _ _ => Iff.rfl).symm

def Order.byKey : Order := .by fun key : Text => key

section
variable {κ γ : Type} [LinearOrder κ] {compared : Text → κ} {fields other : List (Text × γ)}

theorem sortBy_perm : (sortBy compared fields).Perm fields := List.perm_insertionSort _ _

theorem sortBy_sorted : (sortBy compared fields).Pairwise fun a b => compared a.1 ≤ compared b.1 := by
  have total : Std.Total fun a b : Text × γ => compared a.1 ≤ compared b.1 := ⟨fun a b => le_total _ _⟩
  have trans : IsTrans (Text × γ) fun a b => compared a.1 ≤ compared b.1 := ⟨fun a b c => le_trans⟩
  exact List.pairwise_insertionSort _ _

theorem eq_of_sorted (injective : compared.Injective) (distinct : (keys fields).Nodup) (perm : fields.Perm other)
    (sorted : fields.Pairwise fun a b => compared a.1 ≤ compared b.1)
    (sorted' : other.Pairwise fun a b => compared a.1 ≤ compared b.1) : fields = other := by
  refine List.Perm.eq_of_pairwise (fun a b member member' le ge => ?_) sorted sorted' perm
  have same : a.1 = b.1 := injective (le_antisymm le ge)
  exact List.inj_on_of_nodup_map distinct member (perm.mem_iff.mpr member') same

theorem sortBy_congr (injective : compared.Injective) (distinct : (keys fields).Nodup) (perm : fields.Perm other) :
    sortBy compared fields = sortBy compared other := by
  refine eq_of_sorted injective ?_ (sortBy_perm.trans (perm.trans sortBy_perm.symm)) sortBy_sorted sortBy_sorted
  exact (sortBy_perm.map Prod.fst).nodup_iff.mpr distinct

end

section
variable {α β γ : Type}

mutual

def Tree.arrange (leaf : α → β) (order : Order) : Tree α → Tree β
  | .leaf value => .leaf (leaf value)
  | .arr items => .arr (arrangeItems leaf order items)
  | .obj fields => .obj (order.list (arrangeFields leaf order fields))

def arrangeItems (leaf : α → β) (order : Order) : List (Tree α) → List (Tree β)
  | [] => []
  | item :: rest => item.arrange leaf order :: arrangeItems leaf order rest

def arrangeFields (leaf : α → β) (order : Order) : List (Text × Tree α) → List (Text × Tree β)
  | [] => []
  | (key, value) :: rest => (key, value.arrange leaf order) :: arrangeFields leaf order rest

end

theorem arrangeFields_eq_map (leaf : α → β) (order : Order) (fields : List (Text × Tree α)) :
    arrangeFields leaf order fields = fields.map (Prod.map id (Tree.arrange leaf order)) := by
  induction fields with
  | nil => rfl
  | cons field rest ih =>
    obtain ⟨key, value⟩ := field
    rw [arrangeFields, List.map_cons, ih]
    rfl

mutual

theorem Tree.arrange_id : ∀ tree : Tree α, tree.arrange id .asIs = tree
  | .leaf _ => rfl
  | .arr items => by rw [Tree.arrange, arrangeItems_id items]
  | .obj fields => by rw [Tree.arrange, Order.asIs_list, arrangeFields_id fields]

theorem arrangeItems_id : ∀ items : List (Tree α), arrangeItems id .asIs items = items
  | [] => rfl
  | item :: rest => by rw [arrangeItems, item.arrange_id, arrangeItems_id rest]

theorem arrangeFields_id : ∀ fields : List (Text × Tree α), arrangeFields id .asIs fields = fields
  | [] => rfl
  | (_, value) :: rest => by rw [arrangeFields, value.arrange_id, arrangeFields_id rest]

end

theorem keys_arrangeFields (leaf : α → β) (order : Order) (fields : List (Text × Tree α)) :
    keys (arrangeFields leaf order fields) = keys fields := by
  rw [arrangeFields_eq_map, keys_map]

mutual

theorem Tree.arrange_arrange (leaf : α → β) (order : Order) (leaf' : β → γ) (order' : Order) :
    ∀ tree : Tree α, (tree.arrange leaf order).arrange leaf' order' = tree.arrange (leaf' ∘ leaf) (order.then order')
  | .leaf _ => rfl
  | .arr items => by
    rw [Tree.arrange, Tree.arrange, Tree.arrange, arrangeItems_arrange leaf order leaf' order' items]
  | .obj fields => by
    have fieldwise := arrangeFields_arrange leaf order leaf' order' fields
    rw [Tree.arrange, Tree.arrange, Tree.arrange, ← fieldwise, arrangeFields_eq_map leaf' order', arrangeFields_eq_map leaf' order', ← order.natural]
    rfl

theorem arrangeItems_arrange (leaf : α → β) (order : Order) (leaf' : β → γ) (order' : Order) :
    ∀ items : List (Tree α), arrangeItems leaf' order' (arrangeItems leaf order items) =
      arrangeItems (leaf' ∘ leaf) (order.then order') items
  | [] => rfl
  | item :: rest => by
    rw [arrangeItems, arrangeItems, arrangeItems, Tree.arrange_arrange leaf order leaf' order' item,
      arrangeItems_arrange leaf order leaf' order' rest]

theorem arrangeFields_arrange (leaf : α → β) (order : Order) (leaf' : β → γ) (order' : Order) :
    ∀ fields : List (Text × Tree α), arrangeFields leaf' order' (arrangeFields leaf order fields) =
      arrangeFields (leaf' ∘ leaf) (order.then order') fields
  | [] => rfl
  | (_, value) :: rest => by
    rw [arrangeFields, arrangeFields, arrangeFields, Tree.arrange_arrange leaf order leaf' order' value,
      arrangeFields_arrange leaf order leaf' order' rest]

end

mutual

def Tree.All (good : α → Prop) (listed : List Text → Prop) : Tree α → Prop
  | .leaf value => good value
  | .arr items => AllItems good listed items
  | .obj fields => listed (keys fields) ∧ AllFields good listed fields

def AllItems (good : α → Prop) (listed : List Text → Prop) : List (Tree α) → Prop
  | [] => True
  | item :: rest => item.All good listed ∧ AllItems good listed rest

def AllFields (good : α → Prop) (listed : List Text → Prop) : List (Text × Tree α) → Prop
  | [] => True
  | (_, value) :: rest => value.All good listed ∧ AllFields good listed rest

end

abbrev Tree.WellFormed (good : α → Prop) (tree : Tree α) : Prop := tree.All good List.Nodup

theorem allItems_iff {good : α → Prop} {listed : List Text → Prop} {items : List (Tree α)} :
    AllItems good listed items ↔ ∀ item ∈ items, item.All good listed := by
  induction items with
  | nil => simp [AllItems]
  | cons item rest ih => rw [AllItems, ih, List.forall_mem_cons]

theorem allFields_iff {good : α → Prop} {listed : List Text → Prop} {fields : List (Text × Tree α)} :
    AllFields good listed fields ↔ ∀ field ∈ fields, field.2.All good listed := by
  induction fields with
  | nil => simp [AllFields]
  | cons field rest ih => rw [AllFields, ih, List.forall_mem_cons]

def Order.Permutes (order : Order) : Prop :=
  ∀ {γ : Type} (fields : List (Text × γ)), (keys fields).Nodup → (order.list fields).Perm fields

theorem Order.by_permutes {κ : Type} [LinearOrder κ] (compared : Text → κ) : (Order.by compared).Permutes :=
  fun _ _ => sortBy_perm

theorem Order.byKey_permutes : Order.byKey.Permutes := Order.by_permutes _

theorem Order.Permutes.then {first second : Order} (permutes : first.Permutes) (permutes' : second.Permutes) :
    (first.then second).Permutes := by
  intro γ fields distinct
  have perm := permutes fields distinct
  exact (permutes' _ ((perm.map Prod.fst).nodup_iff.mpr distinct)).trans perm

section
variable {leaf leaf' : α → β} {good : α → Prop} {good' : β → Prop} {listed listed' : List Text → Prop} {order order' : Order}

def Order.Keeps (order : Order) (listed listed' : List Text → Prop) : Prop :=
  ∀ {γ : Type} (fields : List (Text × γ)), listed (keys fields) → (order.list fields).Perm fields ∧ listed' (keys (order.list fields))

theorem Order.Permutes.keeps (permutes : order.Permutes) : order.Keeps List.Nodup List.Nodup := by
  intro γ fields distinct
  have perm := permutes fields distinct
  exact ⟨perm, (perm.map Prod.fst).nodup_iff.mpr distinct⟩

mutual

theorem Tree.All.arrange (keeps : order.Keeps listed listed') (kept : ∀ value, good value → good' (leaf value)) :
    ∀ {tree : Tree α}, tree.All good listed → (tree.arrange leaf order).All good' listed'
  | .leaf value, all => kept value all
  | .arr items, all => by
    rw [Tree.arrange, Tree.All]
    exact AllItems.arrange keeps kept all
  | .obj fields, ⟨keysListed, all⟩ => by
    rw [← keys_arrangeFields leaf order] at keysListed
    obtain ⟨perm, made⟩ := keeps (arrangeFields leaf order fields) keysListed
    have inner := allFields_iff.mp (AllFields.arrange keeps kept all)
    rw [Tree.arrange, Tree.All]
    exact ⟨made, allFields_iff.mpr fun field member => inner field (perm.mem_iff.mp member)⟩

theorem AllItems.arrange (keeps : order.Keeps listed listed') (kept : ∀ value, good value → good' (leaf value)) :
    ∀ {items : List (Tree α)}, AllItems good listed items → AllItems good' listed' (arrangeItems leaf order items)
  | [], _ => trivial
  | _ :: _, ⟨first, others⟩ => ⟨first.arrange keeps kept, others.arrange keeps kept⟩

theorem AllFields.arrange (keeps : order.Keeps listed listed') (kept : ∀ value, good value → good' (leaf value)) :
    ∀ {fields : List (Text × Tree α)}, AllFields good listed fields → AllFields good' listed' (arrangeFields leaf order fields)
  | [], _ => trivial
  | (_, _) :: _, ⟨first, others⟩ => ⟨first.arrange keeps kept, others.arrange keeps kept⟩

end

mutual

theorem Tree.All.arrange_congr (leaves : ∀ value, good value → leaf value = leaf' value)
    (orders : ∀ fields : List (Text × Tree β), listed (keys fields) → order.list fields = order'.list fields) :
    ∀ {tree : Tree α}, tree.All good listed → tree.arrange leaf order = tree.arrange leaf' order'
  | .leaf value, all => congrArg Tree.leaf (leaves value all)
  | .arr items, all => by rw [Tree.arrange, Tree.arrange, AllItems.arrange_congr leaves orders all]
  | .obj fields, ⟨keysListed, all⟩ => by
    rw [Tree.arrange, Tree.arrange, AllFields.arrange_congr leaves orders all,
      orders _ ((keys_arrangeFields leaf' order' fields).symm ▸ keysListed)]

theorem AllItems.arrange_congr (leaves : ∀ value, good value → leaf value = leaf' value)
    (orders : ∀ fields : List (Text × Tree β), listed (keys fields) → order.list fields = order'.list fields) :
    ∀ {items : List (Tree α)}, AllItems good listed items → arrangeItems leaf order items = arrangeItems leaf' order' items
  | [], _ => rfl
  | _ :: _, ⟨first, others⟩ => by
    rw [arrangeItems, arrangeItems, first.arrange_congr leaves orders, others.arrange_congr leaves orders]

theorem AllFields.arrange_congr (leaves : ∀ value, good value → leaf value = leaf' value)
    (orders : ∀ fields : List (Text × Tree β), listed (keys fields) → order.list fields = order'.list fields) :
    ∀ {fields : List (Text × Tree α)}, AllFields good listed fields →
      arrangeFields leaf order fields = arrangeFields leaf' order' fields
  | [], _ => rfl
  | (_, _) :: _, ⟨first, others⟩ => by
    rw [arrangeFields, arrangeFields, first.arrange_congr leaves orders, others.arrange_congr leaves orders]

end

end

section
variable {good good' : α → Prop} {listed listed' : List Text → Prop}

mutual

theorem Tree.All.and : ∀ {tree : Tree α}, tree.All good listed → tree.All good' listed' →
    tree.All (fun value => good value ∧ good' value) fun keys => listed keys ∧ listed' keys
  | .leaf _, all, all' => ⟨all, all'⟩
  | .arr _, all, all' => AllItems.and all all'
  | .obj _, ⟨keysListed, all⟩, ⟨keysListed', all'⟩ => ⟨⟨keysListed, keysListed'⟩, AllFields.and all all'⟩

theorem AllItems.and : ∀ {items : List (Tree α)}, AllItems good listed items → AllItems good' listed' items →
    AllItems (fun value => good value ∧ good' value) (fun keys => listed keys ∧ listed' keys) items
  | [], _, _ => trivial
  | _ :: _, ⟨first, others⟩, ⟨first', others'⟩ => ⟨first.and first', others.and others'⟩

theorem AllFields.and : ∀ {fields : List (Text × Tree α)}, AllFields good listed fields → AllFields good' listed' fields →
    AllFields (fun value => good value ∧ good' value) (fun keys => listed keys ∧ listed' keys) fields
  | [], _, _ => trivial
  | (_, _) :: _, ⟨first, others⟩, ⟨first', others'⟩ => ⟨first.and first', others.and others'⟩

end

def Order.Reveals (order : Order) (listed listed' : List Text → Prop) : Prop :=
  ∀ {γ : Type} (fields : List (Text × γ)), (keys fields).Nodup → listed' (keys (order.list fields)) → listed (keys fields)

variable {leaf : α → β} {made : β → Prop} {order : Order}

mutual

theorem Tree.WellFormed.of_arrange (permutes : order.Permutes) (reveals : order.Reveals listed listed') :
    ∀ {tree : Tree α}, tree.WellFormed good → (tree.arrange leaf order).All made listed' → tree.All (fun _ => True) listed
  | .leaf _, _, _ => trivial
  | .arr items, formed, all => by
    rw [Tree.arrange] at all
    exact allItems_of_arrange permutes reveals formed all
  | .obj fields, ⟨distinct, formed⟩, all => by
    rw [Tree.arrange] at all
    obtain ⟨keysListed, inner⟩ := all
    rw [← keys_arrangeFields leaf order] at distinct
    have perm := permutes (arrangeFields leaf order fields) distinct
    refine ⟨keys_arrangeFields leaf order fields ▸ reveals _ distinct keysListed, allFields_of_arrange permutes reveals formed ?_⟩
    exact allFields_iff.mpr fun field member => allFields_iff.mp inner field (perm.mem_iff.mpr member)

theorem allItems_of_arrange (permutes : order.Permutes) (reveals : order.Reveals listed listed') :
    ∀ {items : List (Tree α)}, AllItems good List.Nodup items → AllItems made listed' (arrangeItems leaf order items) →
      AllItems (fun _ => True) listed items
  | [], _, _ => trivial
  | _ :: _, ⟨first, others⟩, ⟨all, alls⟩ =>
    ⟨Tree.WellFormed.of_arrange permutes reveals first all, allItems_of_arrange permutes reveals others alls⟩

theorem allFields_of_arrange (permutes : order.Permutes) (reveals : order.Reveals listed listed') :
    ∀ {fields : List (Text × Tree α)}, AllFields good List.Nodup fields → AllFields made listed' (arrangeFields leaf order fields) →
      AllFields (fun _ => True) listed fields
  | [], _, _ => trivial
  | (_, _) :: _, ⟨first, others⟩, ⟨all, alls⟩ =>
    ⟨Tree.WellFormed.of_arrange permutes reveals first all, allFields_of_arrange permutes reveals others alls⟩

end

end

section
variable {same : α → α → Prop}

mutual

def Tree.Same (same : α → α → Prop) : Tree α → Tree α → Prop
  | .leaf value, .leaf value' => same value value'
  | .arr items, .arr items' => SameItems same items items'
  | .obj fields, .obj fields' => (∀ key, key ∈ keys fields ↔ key ∈ keys fields') ∧ SameFields same fields fields'
  | _, _ => False

def SameItems (same : α → α → Prop) : List (Tree α) → List (Tree α) → Prop
  | [], [] => True
  | item :: rest, item' :: rest' => item.Same same item' ∧ SameItems same rest rest'
  | _, _ => False

def SameFields (same : α → α → Prop) : List (Text × Tree α) → List (Text × Tree α) → Prop
  | [], _ => True
  | (key, value) :: rest, fields => (∃ value', (key, value') ∈ fields ∧ value.Same same value') ∧ SameFields same rest fields

end

def Tree.normal (norm : α → β) (tree : Tree α) : Tree β := tree.arrange norm .byKey

variable {norm : α → β} {good : α → Prop}

mutual

/-- Two trees are the same exactly if their normal forms are equal. -/
theorem Tree.same_iff_normal (equal : ∀ value value', good value → good value' → (same value value' ↔ norm value = norm value')) :
    ∀ {tree tree' : Tree α}, tree.WellFormed good → tree'.WellFormed good →
    (tree.Same same tree' ↔ tree.normal norm = tree'.normal norm)
  | .leaf value, .leaf value', formed, formed' => by
    simp only [Tree.Same, Tree.normal, Tree.arrange, Tree.leaf.injEq]
    exact equal value value' formed formed'
  | .arr items, .arr items', formed, formed' => by
    simp only [Tree.Same, Tree.normal, Tree.arrange, Tree.arr.injEq]
    exact sameItems_iff_normal equal formed formed'
  | .obj fields, .obj fields', ⟨distinct, formed⟩, ⟨distinct', formed'⟩ => by
    simp only [Tree.Same, Tree.normal, Tree.arrange, Tree.obj.injEq]
    have nodup := (keys_arrangeFields norm .byKey fields).symm ▸ distinct
    have nodup' := (keys_arrangeFields norm .byKey fields').symm ▸ distinct'
    have inner := sameFields_iff_normal equal formed formed'
    constructor
    · rintro ⟨listed, values⟩
      refine @sortBy_congr Text _ _ (fun key => key) _ _ (fun _ _ => id) nodup ?_
      rw [List.perm_ext_iff_of_nodup nodup.of_map nodup'.of_map]
      have into := inner.mp values
      rintro ⟨key, value⟩
      refine ⟨into _, fun member => ?_⟩
      have given : key ∈ keys (arrangeFields norm .byKey fields) := by
        rw [keys_arrangeFields, listed, ← keys_arrangeFields norm .byKey]
        exact List.mem_map_of_mem member
      obtain ⟨other, given⟩ := mem_keys.mp given
      rw [eq_of_key nodup' member (into _ given)]
      exact given
    · intro sorted
      have perm : (arrangeFields norm .byKey fields).Perm (arrangeFields norm .byKey fields') := by
        have first := Order.byKey_permutes _ nodup
        rw [sorted] at first
        exact first.symm.trans (Order.byKey_permutes _ nodup')
      refine ⟨fun key => ?_, inner.mpr fun field => perm.mem_iff.mp⟩
      rw [← keys_arrangeFields norm .byKey, ← keys_arrangeFields norm .byKey fields']
      exact (perm.map Prod.fst).mem_iff
  | .leaf _, .arr _, _, _ => by simp [Tree.Same, Tree.normal, Tree.arrange]
  | .leaf _, .obj _, _, _ => by simp [Tree.Same, Tree.normal, Tree.arrange]
  | .arr _, .leaf _, _, _ => by simp [Tree.Same, Tree.normal, Tree.arrange]
  | .arr _, .obj _, _, _ => by simp [Tree.Same, Tree.normal, Tree.arrange]
  | .obj _, .leaf _, _, _ => by simp [Tree.Same, Tree.normal, Tree.arrange]
  | .obj _, .arr _, _, _ => by simp [Tree.Same, Tree.normal, Tree.arrange]

theorem sameItems_iff_normal (equal : ∀ value value', good value → good value' → (same value value' ↔ norm value = norm value')) :
    ∀ {items items' : List (Tree α)}, AllItems good List.Nodup items → AllItems good List.Nodup items' →
    (SameItems same items items' ↔ arrangeItems norm .byKey items = arrangeItems norm .byKey items')
  | [], [], _, _ => by simp [SameItems]
  | [], _ :: _, _, _ => by simp [SameItems, arrangeItems]
  | _ :: _, [], _, _ => by simp [SameItems, arrangeItems]
  | _ :: _, _ :: _, ⟨first, others⟩, ⟨first', others'⟩ => by
    simp only [SameItems, arrangeItems, List.cons.injEq]
    exact and_congr (Tree.same_iff_normal equal first first') (sameItems_iff_normal equal others others')

theorem sameFields_iff_normal (equal : ∀ value value', good value → good value' → (same value value' ↔ norm value = norm value')) :
    ∀ {fields fields' : List (Text × Tree α)}, AllFields good List.Nodup fields →
    AllFields good List.Nodup fields' → (SameFields same fields fields' ↔
      ∀ field ∈ arrangeFields norm .byKey fields, field ∈ arrangeFields norm .byKey fields')
  | [], _, _, _ => by simp [SameFields, arrangeFields]
  | (key, value) :: rest, fields', ⟨first, others⟩, formed' => by
    rw [SameFields, arrangeFields, List.forall_mem_cons, sameFields_iff_normal equal others formed']
    refine and_congr_left fun _ => ?_
    have inner := fun other member => Tree.same_iff_normal equal first (allFields_iff.mp formed' (key, other) member)
    rw [arrangeFields_eq_map]
    simp only [List.mem_map, Prod.exists, Prod.map, id, Prod.mk.injEq]
    constructor
    · rintro ⟨other, member, same⟩
      exact ⟨key, other, member, rfl, ((inner other member).mp same).symm⟩
    · rintro ⟨_, other, member, rfl, same⟩
      exact ⟨other, member, (inner other member).mpr same.symm⟩

end

end

end

end Bnbera.JsonText
