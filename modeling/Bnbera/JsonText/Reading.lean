import Bnbera.JsonText.Trees
import Mathlib.Data.Nat.Digits.Defs

/-! Trees as JSON texts: the text of a tree is read back to it. -/

namespace Bnbera.JsonText

variable {α : Type}

def joined (texts : List Text) : Text := [0x2c].intercalate texts

section
variable (quote : Text → Text) (write : α → Text)

mutual

def Tree.print : Tree α → Text
  | .leaf value => write value
  | .arr items => 0x5b :: joined (printItems items) ++ [0x5d]
  | .obj fields => 0x7b :: joined (printFields fields) ++ [0x7d]

def printItems : List (Tree α) → List Text
  | [] => []
  | item :: rest => item.print :: printItems rest

def printFields : List (Text × Tree α) → List Text
  | [] => []
  | (key, value) :: rest => (quote key ++ 0x3a :: value.print) :: printFields rest

end

end

def isSpace (c : CodeUnit) : Bool := c = 0x20 || c = 0x9 || c = 0xa || c = 0xd

def skip (text : Text) : Text := text.dropWhile isSpace

section
variable (read : Text → Option (α × Text))

mutual

/-- A tree at the start of a text, and what follows it. -/
def readTree : Nat → Text → Option (Tree α × Text)
  | 0, _ => none
  | fuel + 1, text =>
    match skip text with
    | 0x5b :: rest =>
      match skip rest with
      | 0x5d :: rest => some (.arr [], rest)
      | rest => (readItems fuel rest).map fun result => (.arr result.1, result.2)
    | 0x7b :: rest =>
      match skip rest with
      | 0x7d :: rest => some (.obj [], rest)
      | rest => (readFields fuel rest).map fun result => (.obj result.1, result.2)
    | rest => (read rest).map fun result => (.leaf result.1, result.2)

def readItems : Nat → Text → Option (List (Tree α) × Text)
  | 0, _ => none
  | fuel + 1, text => do
    let (item, rest) ← readTree fuel text
    match skip rest with
    | 0x2c :: rest => (readItems fuel rest).map fun result => (item :: result.1, result.2)
    | 0x5d :: rest => some ([item], rest)
    | _ => none

def readFields : Nat → Text → Option (List (Text × Tree α) × Text)
  | 0, _ => none
  | fuel + 1, text =>
    match skip text with
    | 0x22 :: rest => do
      let (key, rest) ← readUnits rest
      match skip rest with
      | 0x3a :: rest => do
        let (value, rest) ← readTree fuel rest
        match skip rest with
        | 0x2c :: rest => (readFields fuel rest).map fun result => ((key, value) :: result.1, result.2)
        | 0x7d :: rest => some ([(key, value)], rest)
        | _ => none
      | _ => none
    | _ => none

end

def parseTree (text : Text) : Option (Tree α) := do
  let (tree, rest) ← readTree read (2 * text.length + 1) text
  if skip rest = [] then some tree else none

end

section
variable {β : Type} {quote : Text → Text} {write : α → Text} {write' : β → Text} {leaf : α → β} {good : α → Prop}
  {listed : List Text → Prop}

mutual

theorem Tree.All.print_congr (same : ∀ value, good value → write value = write' (leaf value)) : ∀ {tree : Tree α}, tree.All good listed →
    tree.print quote write = (tree.arrange leaf .asIs).print quote write'
  | .leaf value, all => same value all
  | .arr items, all => by rw [Tree.print, Tree.arrange, Tree.print, AllItems.print_congr same all]
  | .obj fields, all => by
    rw [Tree.print, Tree.arrange, Order.asIs_list, Tree.print, AllFields.print_congr same all.2]

theorem AllItems.print_congr (same : ∀ value, good value → write value = write' (leaf value)) : ∀ {items : List (Tree α)},
    AllItems good listed items → printItems quote write items = printItems quote write' (arrangeItems leaf .asIs items)
  | [], _ => rfl
  | _ :: _, ⟨first, others⟩ => by
    rw [printItems, arrangeItems, printItems, first.print_congr same, others.print_congr same]

theorem AllFields.print_congr (same : ∀ value, good value → write value = write' (leaf value)) :
    ∀ {fields : List (Text × Tree α)}, AllFields good listed fields →
      printFields quote write fields = printFields quote write' (arrangeFields leaf .asIs fields)
  | [], _ => rfl
  | (_, _) :: _, ⟨first, others⟩ => by
    rw [printFields, arrangeFields, printFields, first.print_congr same, others.print_congr same]

end

end

def Follows (rest : Text) : Prop := ∀ c ∈ rest.head?, c = 0x2c ∨ c = 0x5d ∨ c = 0x7d

def IsStart (c : CodeUnit) : Prop := isSpace c = false ∧ c ≠ 0x5b ∧ c ≠ 0x7b ∧ c ≠ 0x5d

instance : DecidablePred IsStart := fun _ => inferInstanceAs (Decidable (_ ∧ _))

structure Reads (write : α → Text) (read : Text → Option (α × Text)) (good : α → Prop) : Prop where
  starts : ∀ {value}, good value → ∃ c rest, write value = c :: rest ∧ IsStart c
  reads : ∀ {value rest}, good value → Follows rest → read (write value ++ rest) = some (value, rest)

theorem follows_cons {c : CodeUnit} {rest : Text} (ends : c = 0x2c ∨ c = 0x5d ∨ c = 0x7d) : Follows (c :: rest) := by
  intro d member
  cases Option.some.inj (Option.mem_def.mp member)
  exact ends

theorem skip_cons {c : CodeUnit} {rest : Text} (shown : isSpace c = false) : skip (c :: rest) = c :: rest := by
  rw [skip, List.dropWhile_cons_of_neg (by rw [shown]; exact Bool.false_ne_true)]

theorem joined_cons_cons (first second : Text) (rest : List Text) :
    joined (first :: second :: rest) = first ++ 0x2c :: joined (second :: rest) := by
  simp [joined, List.intercalate]

theorem joined_singleton (text : Text) : joined [text] = text := by
  simp [joined, List.intercalate]

section
variable {quoting : Quoting} {write : α → Text} {read : Text → Option (α × Text)} {good : α → Prop}

theorem Tree.print_starts (leaves : Reads write read good) {tree : Tree α} (formed : tree.WellFormed good) :
    ∃ c rest, tree.print quoting.quote write = c :: rest ∧ isSpace c = false ∧ c ≠ 0x5d := by
  cases tree with
  | leaf value =>
    obtain ⟨c, rest, shape, start⟩ := leaves.starts formed
    exact ⟨c, rest, by rw [print, shape], start.1, start.2.2.2⟩
  | arr items => exact ⟨0x5b, _, rfl, by decide, by decide⟩
  | obj fields => exact ⟨0x7b, _, rfl, by decide, by decide⟩

theorem readTree_leaf (leaves : Reads write read good) {value : α} (formed : good value) {fuel : Nat} {rest : Text}
    (follows : Follows rest) : readTree read (fuel + 1) (write value ++ rest) = some (.leaf value, rest) := by
  obtain ⟨c, tail, shape, space, noArray, noObject, _⟩ := leaves.starts formed
  have reads := leaves.reads formed follows
  rw [shape, List.cons_append] at reads ⊢
  rw [readTree, skip_cons space]
  split
  · rename_i same
    cases same
    exact absurd rfl noArray
  · rename_i same
    cases same
    exact absurd rfl noObject
  · rw [reads]
    rfl

section
variable {fuel : Nat} {text more rest : Text}

theorem readTree_arr {items : List (Tree α)} {c : CodeUnit} {tail : Text} (shape : text = c :: tail) (space : isSpace c = false)
    (noEnd : c ≠ 0x5d) (inner : readItems read fuel text = some (items, rest)) :
    readTree read (fuel + 1) (0x5b :: text) = some (.arr items, rest) := by
  subst shape
  rw [readTree, skip_cons (by decide)]
  simp only [skip_cons space]
  split
  · rename_i same
    cases same
    exact absurd rfl noEnd
  · rw [inner]
    rfl

theorem readTree_obj {fields : List (Text × Tree α)} {tail : Text} (shape : text = 0x22 :: tail)
    (inner : readFields read fuel text = some (fields, rest)) :
    readTree read (fuel + 1) (0x7b :: text) = some (.obj fields, rest) := by
  subst shape
  rw [readTree, skip_cons (by decide)]
  simp only [skip_cons (show isSpace 0x22 = false by decide), inner, Option.map_some]

theorem readItems_last {item : Tree α} (first : readTree read fuel text = some (item, 0x5d :: rest)) :
    readItems read (fuel + 1) text = some ([item], rest) := by
  rw [readItems, first]
  rfl

theorem readItems_next {item : Tree α} {items : List (Tree α)} (first : readTree read fuel text = some (item, 0x2c :: more))
    (others : readItems read fuel more = some (items, rest)) : readItems read (fuel + 1) text = some (item :: items, rest) := by
  rw [readItems, first]
  simp only [Option.bind_eq_bind, Option.bind_some, skip_cons (show isSpace 0x2c = false by decide), others, Option.map_some]

theorem readFields_last {key : Text} {value : Tree α} (first : readTree read fuel text = some (value, 0x7d :: rest)) :
    readFields read (fuel + 1) (quoting.quote key ++ 0x3a :: text) = some ([(key, value)], rest) := by
  obtain ⟨spelling, shape, reads⟩ := quoting.read_quote key (0x3a :: text)
  rw [shape, readFields, skip_cons (by decide)]
  simp only [Option.bind_eq_bind, reads, Option.bind_some, skip_cons (show isSpace 0x3a = false by decide), first,
    skip_cons (show isSpace 0x7d = false by decide)]

theorem readFields_next {key : Text} {value : Tree α} {fields : List (Text × Tree α)}
    (first : readTree read fuel text = some (value, 0x2c :: more)) (others : readFields read fuel more = some (fields, rest)) :
    readFields read (fuel + 1) (quoting.quote key ++ 0x3a :: text) = some ((key, value) :: fields, rest) := by
  obtain ⟨spelling, shape, reads⟩ := quoting.read_quote key (0x3a :: text)
  rw [shape, readFields, skip_cons (by decide)]
  simp only [Option.bind_eq_bind, reads, Option.bind_some, skip_cons (show isSpace 0x3a = false by decide), first,
    skip_cons (show isSpace 0x2c = false by decide), others, Option.map_some]

end

theorem joined_printFields {key : Text} {value : Tree α} {fields : List (Text × Tree α)} (rest : Text) :
    ∃ others, joined (printFields quoting.quote write ((key, value) :: fields)) ++ rest = quoting.quote key ++ others := by
  cases fields with
  | nil => exact ⟨_, by rw [printFields, printFields, joined_singleton, List.append_assoc]⟩
  | cons second fields =>
    obtain ⟨other, value'⟩ := second
    exact ⟨_, by rw [printFields, printFields, joined_cons_cons, List.append_assoc, List.append_assoc]⟩

mutual

theorem readTree_print (leaves : Reads write read good) : ∀ {tree : Tree α}, tree.WellFormed good → ∀ {fuel : Nat} {rest : Text},
    2 * (tree.print quoting.quote write).length < fuel → Follows rest →
      readTree read fuel (tree.print quoting.quote write ++ rest) = some (tree, rest)
  | .leaf value, formed, fuel + 1, rest, _, follows => readTree_leaf leaves formed follows
  | .arr [], _, fuel + 1, rest, _, _ => rfl
  | .arr (item :: items), formed, fuel + 1, rest, enough, _ => by
    obtain ⟨c, tail, shape, space, noEnd⟩ := @Tree.print_starts _ quoting _ _ _ leaves item formed.1
    rw [Tree.print, List.length_append, List.length_cons, List.length_singleton] at enough
    have inner := @readItems_print leaves item items formed fuel rest (by omega)
    rw [Tree.print, List.cons_append, List.cons_append, List.append_assoc, List.singleton_append]
    obtain ⟨tail', start⟩ : ∃ tail', joined (printItems quoting.quote write (item :: items)) ++ 0x5d :: rest = c :: tail' := by
      cases items with
      | nil => exact ⟨_, by rw [printItems, printItems, joined_singleton, shape, List.cons_append]⟩
      | cons second items =>
        exact ⟨_, by rw [printItems, printItems, joined_cons_cons, shape, List.cons_append, List.cons_append]⟩
    exact readTree_arr start space noEnd inner
  | .obj [], _, fuel + 1, rest, _, _ => rfl
  | .obj ((key, value) :: fields), formed, fuel + 1, rest, enough, _ => by
    rw [Tree.print, List.length_append, List.length_cons, List.length_singleton] at enough
    have inner := @readFields_print leaves key value fields formed.2 fuel rest (by omega)
    rw [Tree.print, List.cons_append, List.cons_append, List.append_assoc, List.singleton_append]
    obtain ⟨others, shape⟩ := @joined_printFields _ quoting write key value fields (0x7d :: rest)
    obtain ⟨spelling, start, _⟩ := quoting.read_quote key others
    exact readTree_obj (shape.trans start) inner

theorem readItems_print (leaves : Reads write read good) : ∀ {item : Tree α} {items : List (Tree α)},
    AllItems good List.Nodup (item :: items) → ∀ {fuel : Nat} {rest : Text},
    2 * (joined (printItems quoting.quote write (item :: items))).length + 1 < fuel →
      readItems read fuel (joined (printItems quoting.quote write (item :: items)) ++ 0x5d :: rest) = some (item :: items, rest)
  | item, [], ⟨first, _⟩, fuel + 1, rest, enough => by
    rw [printItems, printItems, joined_singleton] at enough ⊢
    exact readItems_last (readTree_print leaves first (by omega) (follows_cons (by decide)))
  | item, second :: items, ⟨first, others⟩, fuel + 1, rest, enough => by
    have reads := @readItems_print leaves second items others fuel rest
    rw [printItems, printItems, joined_cons_cons, List.length_append, List.length_cons] at enough
    rw [printItems] at reads
    rw [printItems, printItems, joined_cons_cons, List.append_assoc, List.cons_append]
    exact readItems_next (readTree_print leaves first (by omega) (follows_cons (by decide))) (reads (by omega))

theorem readFields_print (leaves : Reads write read good) : ∀ {key : Text} {value : Tree α} {fields : List (Text × Tree α)},
    AllFields good List.Nodup ((key, value) :: fields) → ∀ {fuel : Nat} {rest : Text},
    2 * (joined (printFields quoting.quote write ((key, value) :: fields))).length + 1 < fuel →
      readFields read fuel (joined (printFields quoting.quote write ((key, value) :: fields)) ++ 0x7d :: rest) =
        some ((key, value) :: fields, rest)
  | key, value, [], ⟨first, _⟩, fuel + 1, rest, enough => by
    rw [printFields, printFields, joined_singleton, List.length_append, List.length_cons] at enough
    rw [printFields, printFields, joined_singleton, List.append_assoc, List.cons_append]
    exact readFields_last (readTree_print leaves first (by omega) (follows_cons (by decide)))
  | key, value, (second, other) :: fields, ⟨first, others⟩, fuel + 1, rest, enough => by
    have reads := @readFields_print leaves second other fields others fuel rest
    rw [printFields, printFields, joined_cons_cons, List.length_append, List.length_append, List.length_cons, List.length_cons] at enough
    rw [printFields] at reads
    rw [printFields, printFields, joined_cons_cons, List.append_assoc, List.append_assoc, List.cons_append, List.cons_append]
    exact readFields_next (readTree_print leaves first (by omega) (follows_cons (by decide))) (reads (by omega))

end

theorem parseTree_print (leaves : Reads write read good) {tree : Tree α} (formed : tree.WellFormed good) :
    parseTree read (tree.print quoting.quote write) = some tree := by
  have reads := @readTree_print _ quoting _ _ _ leaves tree formed (2 * (tree.print quoting.quote write).length + 1) [] (by omega)
    (fun c member => absurd member nofun)
  rw [List.append_nil] at reads
  rw [parseTree, reads]
  rfl

end

end Bnbera.JsonText

/-! Objects as the language keeps them: the order of their own keys, and what `JSON.parse` builds. -/

namespace Bnbera.JsonText

def decimal (key : Text) : Nat := key.foldl (fun value c => 10 * value + (c.val - 48)) 0

def isArrayIndex (key : Text) : Bool :=
  key.all (fun c => 48 ≤ c.val && c.val ≤ 57) && (key == [0x30] || key.head?.any (· ≠ 0x30)) && decimal key < 2 ^ 32 - 1

theorem isArrayIndex_iff {key : Text} : isArrayIndex key = true ↔ (∀ c ∈ key, 48 ≤ c.val ∧ c.val ≤ 57) ∧
    (key = [0x30] ∨ ∃ first rest, key = first :: rest ∧ first ≠ 0x30) ∧ decimal key < 2 ^ 32 - 1 := by
  cases key with
  | nil => simp [isArrayIndex]
  | cons first rest => simp [isArrayIndex, and_assoc]

theorem decimal_eq_ofDigits (key : Text) : decimal key = Nat.ofDigits 10 (key.reverse.map fun c => c.val - 48) := by
  rw [Nat.ofDigits_eq_foldr, List.foldr_map, List.foldr_reverse, decimal]
  exact congrArg (fun step => key.foldl step 0) (funext fun value => funext fun c => by simp [Nat.add_comm])

theorem digits_decimal {key : Text} (digits : ∀ c ∈ key, 48 ≤ c.val ∧ c.val ≤ 57) {first : CodeUnit} {rest : Text}
    (shape : key = first :: rest) (leading : first ≠ 0x30) : Nat.digits 10 (decimal key) = key.reverse.map fun c => c.val - 48 := by
  rw [decimal_eq_ofDigits]
  refine Nat.digits_ofDigits 10 (by decide) _ ?_ ?_
  · intro digit member
    obtain ⟨c, given, rfl⟩ := List.mem_map.mp member
    have bounds := digits c (List.mem_reverse.mp given)
    omega
  · intro present
    subst shape
    have bounds := digits first List.mem_cons_self
    have zero : first.val ≠ 48 := fun same => leading (Fin.ext same)
    simp only [List.reverse_cons, List.map_append, List.map_cons, List.map_nil, List.getLast_append_singleton]
    omega

/-- Two array indices of one number are the same key. -/
theorem decimal_inj {key other : Text} (index : isArrayIndex key = true) (index' : isArrayIndex other = true)
    (same : decimal key = decimal other) : key = other := by
  obtain ⟨digits, shape, _⟩ := isArrayIndex_iff.mp index
  obtain ⟨digits', shape', _⟩ := isArrayIndex_iff.mp index'
  have positive : ∀ {key : Text} {first rest}, (∀ c ∈ key, 48 ≤ c.val ∧ c.val ≤ 57) → key = first :: rest → first ≠ 0x30 → decimal key ≠ 0 := by
    intro key first rest digits shape leading zero
    have read := digits_decimal digits shape leading
    rw [zero, Nat.digits_zero] at read
    subst shape
    simp at read
  rcases shape with rfl | ⟨first, rest, shape, leading⟩
  · rcases shape' with rfl | ⟨first', rest', shape', leading'⟩
    · rfl
    · exact absurd same.symm (positive digits' shape' leading')
  · rcases shape' with rfl | ⟨first', rest', shape', leading'⟩
    · exact absurd same (positive digits shape leading)
    · have read := digits_decimal digits shape leading
      rw [same, digits_decimal digits' shape' leading'] at read
      have back : ∀ {key : Text}, (∀ c ∈ key, 48 ≤ c.val ∧ c.val ≤ 57) →
          (key.reverse.map fun c => c.val - 48).map (fun digit => (Fin.ofNat 0x10000 (48 + digit))) = key.reverse := by
        intro key digits
        rw [List.map_map]
        refine (List.map_congr_left fun c member => ?_).trans (List.map_id _)
        have bounds := digits c (List.mem_reverse.mp member)
        refine Fin.ext ?_
        simp only [Function.comp_apply, Fin.ofNat, id]
        omega
      rw [← List.reverse_inj, ← back digits, ← read, back digits']

def ownFields {γ : Type} (fields : List (Text × γ)) : List (Text × γ) :=
  sortBy decimal (fields.filter fun field => isArrayIndex field.1) ++ fields.filter fun field => !isArrayIndex field.1

section
variable {α β : Type}

theorem filter_keys (test : Text → Bool) (change : α → β) (fields : List (Text × α)) :
    (fields.map (Prod.map id change)).filter (fun field => test field.1) =
      (fields.filter fun field => test field.1).map (Prod.map id change) :=
  List.filter_map

end

def Order.own : Order where
  list := ownFields
  natural change fields := by
    rw [ownFields, filter_keys isArrayIndex, filter_keys (fun key => !isArrayIndex key), ownFields, List.map_append]
    exact congrArg (· ++ _) ((Order.by decimal).natural change _)

theorem Order.own_permutes : Order.own.Permutes := by
  intro γ fields _
  exact (sortBy_perm.append_right _).trans (List.filter_append_perm _ fields)

/-- `object[key] = value`: a key that is there keeps its place. -/
def assign {γ : Type} : List (Text × γ) → Text → γ → List (Text × γ)
  | [], key, value => [(key, value)]
  | (k, v) :: rest, key, value => if k = key then (key, value) :: rest else (k, v) :: assign rest key value

def assigned {γ : Type} (fields : List (Text × γ)) : List (Text × γ) :=
  fields.foldl (fun built field => assign built field.1 field.2) []

section
variable {γ δ : Type} {fields : List (Text × γ)}

theorem assign_map (change : γ → δ) (fields : List (Text × γ)) (key : Text) (value : γ) :
    assign (fields.map (Prod.map id change)) key (change value) = (assign fields key value).map (Prod.map id change) := by
  induction fields with
  | nil => rfl
  | cons field rest ih =>
    obtain ⟨k, v⟩ := field
    by_cases same : k = key
    · simp [assign, same]
    · simp [assign, same, ← ih]

theorem assign_fresh {key : Text} {value : γ} (fresh : key ∉ keys fields) : assign fields key value = fields ++ [(key, value)] := by
  induction fields with
  | nil => rfl
  | cons field rest ih =>
    obtain ⟨k, v⟩ := field
    obtain ⟨other, fresh⟩ := not_or.mp (List.mem_cons.not.mp fresh)
    rw [assign, if_neg (Ne.symm other), ih fresh]
    rfl

theorem foldl_assign (built : List (Text × γ)) (distinct : (keys (built ++ fields)).Nodup) :
    fields.foldl (fun built field => assign built field.1 field.2) built = built ++ fields := by
  induction fields generalizing built with
  | nil => rw [List.foldl_nil, List.append_nil]
  | cons field rest ih =>
    have fresh : field.1 ∉ keys built := by
      rw [keys, List.map_append, List.nodup_append] at distinct
      exact fun member => distinct.2.2 _ member _ List.mem_cons_self rfl
    rw [List.foldl_cons, assign_fresh fresh, ih _ (by rwa [List.append_assoc]), List.append_assoc]
    rfl

theorem assigned_eq_self (distinct : (keys fields).Nodup) : assigned fields = fields :=
  foldl_assign [] distinct

end

def Order.assigned : Order where
  list := JsonText.assigned
  natural change fields := by
    have built : ∀ built : List (Text × _), (fields.map (Prod.map id change)).foldl (fun built field => assign built field.1 field.2)
        (built.map (Prod.map id change)) = (fields.foldl (fun built field => assign built field.1 field.2) built).map (Prod.map id change) := by
      induction fields with
      | nil => exact fun _ => rfl
      | cons field rest ih =>
        intro built
        rw [List.map_cons, List.foldl_cons, List.foldl_cons, ← ih]
        exact congrArg (fun start => (rest.map (Prod.map id change)).foldl _ start) (assign_map change built field.1 field.2)
    exact built []

/-- `Object.fromEntries(fields)` -/
def Order.built : Order := Order.assigned.then .own

theorem Order.built_list {γ : Type} {fields : List (Text × γ)} (distinct : (keys fields).Nodup) :
    Order.built.list fields = ownFields fields :=
  congrArg ownFields (assigned_eq_self distinct)

theorem Order.built_permutes : Order.built.Permutes := by
  intro γ fields distinct
  rw [Order.built_list distinct]
  exact Order.own_permutes fields distinct

section
variable {α β γ : Type} {good : α → Prop}

theorem Tree.WellFormed.normal_arrange {tree : Tree α} (formed : tree.WellFormed good) {order : Order} (permutes : order.Permutes)
    (leaf : α → β) (norm : β → γ) : (tree.arrange leaf order).normal norm = tree.normal (norm ∘ leaf) := by
  rw [Tree.normal, Tree.arrange_arrange, Tree.normal]
  refine formed.arrange_congr (fun _ _ => rfl) fun fields distinct => ?_
  have perm := permutes fields distinct
  exact (@sortBy_congr Text _ _ (fun key => key) _ _ (fun _ _ => id) distinct perm.symm).symm

/-- `JSON.parse(text)`: the last of the fields of one key is kept. -/
def parse (read : Text → Option (α × Text)) (text : Text) : Option (Tree α) := (parseTree read text).map (Tree.arrange id .built)

theorem parse_print {quoting : Quoting} {write : α → Text} {read : Text → Option (α × Text)} (leaves : Reads write read good)
    {tree : Tree α} (formed : tree.WellFormed good) : parse read (tree.print quoting.quote write) = some (tree.arrange id .own) := by
  rw [parse, parseTree_print leaves formed, Option.map_some]
  exact congrArg some (formed.arrange_congr (fun _ _ => rfl) fun fields distinct => Order.built_list distinct)

end

end Bnbera.JsonText
