import Mathlib.Data.List.Sort

/-! Pages of a list in descending order of its keys, each behind the key at which the last one ended. -/

namespace Keyset

variable {α κ : Type} [LinearOrder κ] (key : α → κ)

/-- `ORDER BY key DESC` -/
def descending (items : List α) : List α := items.insertionSort fun a b => key b ≤ key a

/-- `bound IS NULL OR key < bound` -/
def below (bound : Option κ) (item : α) : Bool := bound.all fun bound => decide (key item < bound)

def page (items : List α) (bound : Option κ) (limit : Nat) : List α :=
  (descending key (items.filter (below key bound))).take limit

variable {key} {items : List α}

theorem descending_perm : (descending key items).Perm items := List.perm_insertionSort _ _

instance key_trans : IsTrans α fun a b => key b ≤ key a := ⟨fun _ _ _ first second => second.trans first⟩

instance key_total : Std.Total fun a b : α => key b ≤ key a := ⟨fun a b => le_total (key b) (key a)⟩

theorem descending_strict (distinct : (items.map key).Nodup) :
    (descending key items).Pairwise fun a b => key b < key a := by
  have ordered : (descending key items).Pairwise fun a b => key b ≤ key a := List.pairwise_insertionSort _ _
  have apart : (descending key items).Pairwise fun a b => key a ≠ key b :=
    List.pairwise_map.mp ((descending_perm.map key).nodup_iff.mpr distinct)
  exact (ordered.and apart).imp fun both => lt_of_le_of_ne both.1 both.2.symm

theorem eq_of_strict {first second : List α} (perm : first.Perm second) (strict : first.Pairwise fun a b => key b < key a)
    (strict' : second.Pairwise fun a b => key b < key a) : first = second :=
  perm.eq_of_pairwise (fun _ _ _ _ before after => absurd before (lt_asymm after)) strict strict'

theorem descending_filter (distinct : (items.map key).Nodup) (shown : α → Bool) :
    descending key (items.filter shown) = (descending key items).filter shown := by
  have distinct' : ((items.filter shown).map key).Nodup := distinct.sublist (List.filter_sublist.map key)
  refine eq_of_strict ?_ (descending_strict distinct') ((descending_strict distinct).filter shown)
  exact descending_perm.trans (descending_perm.filter shown).symm

theorem page_behind (distinct : (items.map key).Nodup) {earlier later : List α} {item : α}
    (listed : descending key items = earlier ++ item :: later) (limit : Nat) :
    page key items (some (key item)) limit = later.take limit := by
  have strict := descending_strict distinct
  rw [listed] at strict
  obtain ⟨_, behind, before⟩ := List.pairwise_append.mp strict
  obtain ⟨after, _⟩ := List.pairwise_cons.mp behind
  have none : earlier.filter (below key (some (key item))) = [] := by
    refine List.filter_eq_nil_iff.mpr fun a member => ?_
    simpa [below] using (before a member item List.mem_cons_self).le
  have all : later.filter (below key (some (key item))) = later :=
    List.filter_eq_self.mpr fun a member => by simpa [below] using after a member
  have itself : below key (some (key item)) item = false := by simp [below]
  rw [page, descending_filter distinct, listed, List.filter_append, List.filter_cons, itself, none, all]
  rfl

theorem page_first (limit : Nat) : page key items none limit = (descending key items).take limit := by
  have all : items.filter (below key none) = items := List.filter_eq_self.mpr fun _ _ => rfl
  rw [page, all]

end Keyset
