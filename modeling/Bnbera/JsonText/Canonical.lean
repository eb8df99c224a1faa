import Bnbera.JsonText.Scalars

/-! The canonical JSON text of a value is a faithful identity of it. -/

namespace Bnbera.JsonText

inductive Leaf (N : Type)
  | scalar (value : Scalar N)
  | undefined
  | bigint
  | function
  | symbol
  | classInstance

variable {N : Type} [Numbers N] [DecidableEq N]

def canonicalLeaf : Leaf N → Except Text Text
  | .scalar .null => .ok nullWord
  | .scalar (.str text) => .ok (quote text)
  | .scalar (.bool value) => .ok (boolWord value)
  | .scalar (.num value) =>
    if Numbers.isFinite value = false then .error (units "Canonical JSON cannot contain non-finite numbers")
    else if value = Numbers.negZero then .ok [0x30]
    else .ok (Numbers.toText value)
  | .bigint => .error (units "Canonical JSON cannot contain bigint, function, or symbol values")
  | .function => .error (units "Canonical JSON cannot contain bigint, function, or symbol values")
  | .symbol => .error (units "Canonical JSON cannot contain bigint, function, or symbol values")
  | .classInstance => .error (units "Canonical JSON only accepts plain objects")
  | .undefined => .error (units "Unsupported canonical JSON value: undefined")

mutual

def canonicalValue : Tree (Leaf N) → Except Text Text
  | .leaf value => canonicalLeaf value
  | .arr items => do
    let texts ← canonicalItems items
    return 0x5b :: joined texts ++ [0x5d]
  | .obj fields => do
    -- the keys are sorted before any of their values is looked at
    let entries ← (Order.byKey.list (canonicalFields fields)).mapM fun field => do
      let text ← field.2
      return quote field.1 ++ 0x3a :: text
    return 0x7b :: joined entries ++ [0x7d]

def canonicalItems : List (Tree (Leaf N)) → Except Text (List Text)
  | [] => .ok []
  | item :: rest => do
    let text ← canonicalValue item
    let texts ← canonicalItems rest
    return text :: texts

def canonicalFields : List (Text × Tree (Leaf N)) → List (Text × Except Text Text)
  | [] => []
  | (key, .leaf .undefined) :: rest =>
    (key, .error (units "Canonical JSON cannot contain undefined field: " ++ key)) :: canonicalFields rest
  | (key, value) :: rest => (key, canonicalValue value) :: canonicalFields rest

end

def canonicalizeJson (value : Tree (Leaf N)) : Except Text Text := canonicalValue value

def Tree.unknown (value : Tree (Scalar N)) : Tree (Leaf N) := value.arrange .scalar .asIs

theorem canonicalLeaf_scalar [LawfulNumbers N] {value : Scalar N} (finite : value.IsFinite) :
    canonicalLeaf (.scalar value) = .ok (value.norm.write quote) := by
  rw [Scalar.write_norm]
  cases value with
  | num n =>
    have number : Numbers.isFinite n = true := finite
    rw [canonicalLeaf, number, if_neg (by decide), Scalar.write]
    split
    · rename_i zero
      rw [zero, LawfulNumbers.toText_negZero]
    · rfl
  | _ => rfl

omit [DecidableEq N] in
theorem mapM_entries (fields : List (Text × Tree (Scalar N))) :
    ((fields.map (Prod.map id fun value => (.ok (value.print quote (Scalar.write quote)) : Except Text Text))).mapM fun field => do
      let text ← field.2
      return quote field.1 ++ 0x3a :: text) = .ok (printFields quote (Scalar.write quote) fields) := by
  induction fields with
  | nil => rfl
  | cons field rest ih =>
    obtain ⟨key, value⟩ := field
    rw [List.map_cons, List.mapM_cons, ih, printFields]
    rfl

mutual

theorem canonicalValue_unknown [LawfulNumbers N] : ∀ {value : Tree (Scalar N)}, value.WellFormed Scalar.IsFinite →
    canonicalValue value.unknown = .ok ((value.normal Scalar.norm).print quote (Scalar.write quote))
  | .leaf value, finite => canonicalLeaf_scalar finite
  | .arr items, formed => by
    have inner := canonicalItems_unknown formed
    rw [Tree.unknown, Tree.arrange, canonicalValue, inner, Tree.normal, Tree.arrange, Tree.print]
    rfl
  | .obj fields, formed => by
    have inner := canonicalFields_unknown formed.2
    rw [Tree.unknown, Tree.arrange, canonicalValue]
    rw [Order.asIs_list, inner, Order.byKey.natural, mapM_entries]
    rfl

theorem canonicalItems_unknown [LawfulNumbers N] : ∀ {items : List (Tree (Scalar N))}, AllItems Scalar.IsFinite List.Nodup items →
    canonicalItems (arrangeItems Leaf.scalar .asIs items) =
      .ok (printItems quote (Scalar.write quote) (arrangeItems Scalar.norm .byKey items))
  | [], _ => rfl
  | item :: rest, ⟨first, others⟩ => by
    have head := canonicalValue_unknown first
    rw [Tree.unknown] at head
    rw [arrangeItems, canonicalItems, head, canonicalItems_unknown others, arrangeItems, printItems]
    rfl

theorem canonicalFields_unknown [LawfulNumbers N] : ∀ {fields : List (Text × Tree (Scalar N))}, AllFields Scalar.IsFinite List.Nodup fields →
    canonicalFields (arrangeFields Leaf.scalar .asIs fields) =
      (arrangeFields Scalar.norm .byKey fields).map (Prod.map id fun value => .ok (value.print quote (Scalar.write quote)))
  | [], _ => rfl
  | (key, value) :: rest, ⟨first, others⟩ => by
    have head := canonicalValue_unknown first
    have defined : value.arrange Leaf.scalar .asIs ≠ .leaf .undefined := by
      cases value <;> simp [Tree.arrange]
    rw [Tree.unknown] at head
    rw [arrangeFields, canonicalFields, head, canonicalFields_unknown others, arrangeFields, List.map_cons]
    · rfl
    · exact defined

end

/-- Two values of finite numbers have one canonical text exactly if they are equal up to the order of fields and the sign
of zeros; and the text is parsed to a value that is equal in that sense. -/
theorem canonicalizeJson_faithful [LawfulNumbers N] {value other : Tree (Scalar N)} (formed : value.WellFormed Scalar.IsFinite)
    (formed' : other.WellFormed Scalar.IsFinite) :
    (canonicalizeJson value.unknown = canonicalizeJson other.unknown ↔ value.Same Scalar.Same other) ∧
      ∃ text parsed, canonicalizeJson value.unknown = .ok text ∧ parse readScalar text = some parsed ∧ parsed.Same Scalar.Same value := by
  have reads := @reads_scalars N _ _ jsonQuoting
  have normal := formed.arranged Order.byKey_permutes
  have again : ((value.normal Scalar.norm).arrange id .own).Same Scalar.Same value := by
    rw [Tree.normal, Tree.arrange_arrange]
    exact (formed.same_arranged (Order.byKey_permutes.then Order.own_permutes)).2
  rw [canonicalizeJson, canonicalizeJson, canonicalValue_unknown formed, canonicalValue_unknown formed',
    Tree.same_iff_normal equal_scalars formed formed', Except.ok.injEq]
  refine ⟨⟨fun same => ?_, fun same => by rw [same]⟩, _, _, rfl, @parse_print _ _ jsonQuoting _ _ reads _ normal, again⟩
  have first := @parseTree_print _ jsonQuoting _ _ _ reads _ normal
  have second := @parseTree_print _ jsonQuoting _ _ _ reads _ (formed'.arranged Order.byKey_permutes)
  have texts : (value.normal Scalar.norm).print jsonQuoting.quote (Scalar.write jsonQuoting.quote) =
      (other.normal Scalar.norm).print jsonQuoting.quote (Scalar.write jsonQuoting.quote) := same
  rw [← Tree.normal, texts, Tree.normal, second] at first
  exact (Option.some.inj first).symm

/-- Two objects of one field with the key `a`, of `-0` and of `0`. -/
theorem canonicalizeJson_zeros :
    (canonicalizeJson (Tree.unknown (.obj [([0x61], .leaf (.num (none : SmallNumber)))])) =
      canonicalizeJson (Tree.unknown (.obj [([0x61], .leaf (.num (some 0 : SmallNumber)))])) ↔
        Tree.Same Scalar.Same (.obj [([0x61], .leaf (.num (none : SmallNumber)))])
          (.obj [([0x61], .leaf (.num (some 0 : SmallNumber)))])) ∧
    ∃ text parsed, canonicalizeJson (Tree.unknown (.obj [([0x61], .leaf (.num (none : SmallNumber)))])) = .ok text ∧
      parse readScalar text = some parsed ∧ parsed.Same Scalar.Same (.obj [([0x61], .leaf (.num (none : SmallNumber)))]) :=
  canonicalizeJson_faithful ⟨by simp [keys], rfl, trivial⟩ ⟨by simp [keys], rfl, trivial⟩

end Bnbera.JsonText
