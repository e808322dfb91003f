import Mathlib.Order.RelClasses

/-!
# Sorting by a comparator

A sort that takes its comparator as an argument and promises an order only
when the comparator is a strict weak order.  The result is a permutation
without inversions; in which order it leaves equivalent elements is open.
-/

namespace AdvMad.Foundation

structure SortBy (α : Type*) where
  sort : (α → α → Bool) → List α → List α
  perm : ∀ (lt : α → α → Bool), IsStrictWeakOrder α (fun a b => lt a b = true) →
    ∀ xs, (sort lt xs).Perm xs
  sorted : ∀ (lt : α → α → Bool), IsStrictWeakOrder α (fun a b => lt a b = true) →
    ∀ xs, (sort lt xs).Pairwise fun a b => lt b a = false

variable {α : Type*} {lt : α → α → Bool}

theorem lt_eq_false_trans [h : IsStrictWeakOrder α (fun a b => lt a b = true)] {a b c : α}
    (hba : lt b a = false) (hcb : lt c b = false) : lt c a = false := by
  by_contra hca
  have hca' : lt c a = true := by simpa using hca
  have hab : lt a b = false := by
    by_contra hab
    have hcb' : lt c b = true := h.trans c a b hca' (by simpa using hab)
    simp [hcb] at hcb'
  have hbc : lt b c = false := by
    by_contra hbc
    have hba' : lt b a = true := h.trans b c a (by simpa using hbc) hca'
    simp [hba] at hba'
  have hincomparable := h.incomp_trans a b c (by simp [hab, hba]) (by simp [hbc, hcb])
  exact hincomparable.2 hca'

def mergeSortBy (α : Type*) : SortBy α where
  sort lt xs := xs.mergeSort fun a b => !lt b a
  perm _ _ xs := List.mergeSort_perm xs _
  sorted lt hlt xs := by
    have hsorted : (xs.mergeSort fun a b => !lt b a).Pairwise fun a b => (!lt b a) = true := by
      apply List.pairwise_mergeSort
      · intro a b c hab hbc
        simpa using lt_eq_false_trans (by simpa using hab) (by simpa using hbc)
      · intro a b
        cases hab : lt a b with
        | false => simp
        | true =>
            have hba : lt b a = false := by
              by_contra hba
              exact hlt.irrefl a (hlt.trans a b a hab (by simpa using hba))
            simp [hba]
    exact hsorted.imp fun h => by simpa using h

end AdvMad.Foundation
