import Mathlib.Data.List.InsertIdx
import Mathlib.Data.List.Perm.Basic

/-!
# Bounds-checked array operations

`remove(at:)`, `insert(_:at:)` and `swapAt` on a growable array, with `none`
for the trap on an index out of range.  Moving an entry by a removal and an
insertion is compared with exchanging the two entries: the two agree exactly
when all entries the moved one jumps over are equal.
-/

namespace AdvMad.Foundation

variable {α : Type*}

def removeAt? (xs : List α) (i : Nat) : Option (List α) :=
  if i < xs.length then some (xs.eraseIdx i) else none

def insertAt? (xs : List α) (a : α) (i : Nat) : Option (List α) :=
  if i ≤ xs.length then some (xs.insertIdx i a) else none

def swapAt? (xs : List α) (i j : Nat) : Option (List α) :=
  match xs[i]?, xs[j]? with
  | some a, some b => some ((xs.set i b).set j a)
  | _, _ => none

def moveAt? (xs : List α) (i j : Nat) : Option (List α) := do
  let a ← xs[i]?
  let rest ← removeAt? xs i
  insertAt? rest a j

theorem removeAt?_of_lt {xs : List α} {i : Nat} (h : i < xs.length) :
    removeAt? xs i = some (xs.eraseIdx i) := if_pos h

theorem insertAt?_of_le {xs : List α} {a : α} {i : Nat} (h : i ≤ xs.length) :
    insertAt? xs a i = some (xs.insertIdx i a) := if_pos h

@[simp] theorem insertAt?_length (xs : List α) (a : α) :
    insertAt? xs a xs.length = some (xs ++ [a]) := by
  simp [insertAt?, List.insertIdx_length_self]

theorem swapAt?_of_lt {xs : List α} {i j : Nat} (hi : i < xs.length)
    (hj : j < xs.length) :
    swapAt? xs i j = some ((xs.set i xs[j]).set j xs[i]) := by
  simp [swapAt?, hi, hj]

theorem moveAt?_of_lt {xs : List α} {i j : Nat} (hi : i < xs.length)
    (hj : j < xs.length) :
    moveAt? xs i j = some ((xs.eraseIdx i).insertIdx j xs[i]) := by
  have hle : j ≤ (xs.eraseIdx i).length := by
    rw [List.length_eraseIdx_of_lt hi]
    omega
  simp [moveAt?, hi, removeAt?_of_lt hi, insertAt?_of_le hle]

theorem removeAt?_subset {xs ys : List α} {i : Nat} (h : removeAt? xs i = some ys) :
    ys ⊆ xs := by
  obtain ⟨-, hys⟩ := Option.ite_none_right_eq_some.mp h
  obtain rfl := Option.some.inj hys
  exact fun y hy => List.mem_of_mem_eraseIdx hy

theorem insertAt?_subset {xs ys : List α} {a : α} {i : Nat}
    (h : insertAt? xs a i = some ys) : ys ⊆ a :: xs := by
  obtain ⟨-, hys⟩ := Option.ite_none_right_eq_some.mp h
  obtain rfl := Option.some.inj hys
  exact fun y hy => List.mem_cons.mpr (List.eq_or_mem_of_mem_insertIdx hy)

theorem swapAt?_subset {xs ys : List α} {i j : Nat} (h : swapAt? xs i j = some ys) :
    ys ⊆ xs := by
  unfold swapAt? at h
  split at h
  · case h_1 a b ha hb =>
      obtain rfl := Option.some.inj h
      intro y hy
      rcases List.mem_or_eq_of_mem_set hy with hset | rfl
      · rcases List.mem_or_eq_of_mem_set hset with hmem | rfl
        · exact hmem
        · exact List.mem_of_getElem? hb
      · exact List.mem_of_getElem? ha
  · cases h

/-- The positions whose entries make room when `src` is moved to `dst`; `dst` is one. -/
def Jumped (src dst i : Nat) : Prop :=
  (src < i ∧ i ≤ dst) ∨ (dst ≤ i ∧ i < src)

instance (src dst i : Nat) : Decidable (Jumped src dst i) := by
  unfold Jumped
  infer_instance

def JumpsEqual (xs : List α) (src dst : Nat) : Prop :=
  ∀ i < xs.length, Jumped src dst i → xs[i]? = xs[dst]?

instance [DecidableEq α] (xs : List α) (src dst : Nat) :
    Decidable (JumpsEqual xs src dst) := by
  unfold JumpsEqual
  infer_instance

private theorem getElem?_swap {xs : List α} {i j : Nat} (hi : i < xs.length)
    (hj : j < xs.length) (k : Nat) :
    ((xs.set i xs[j]).set j xs[i])[k]? =
      if k = j then xs[i]? else if k = i then xs[j]? else xs[k]? := by
  grind

private theorem getElem?_move {xs : List α} {i j : Nat} (hi : i < xs.length)
    (hj : j < xs.length) (k : Nat) :
    ((xs.eraseIdx i).insertIdx j xs[i])[k]? =
      if k = j then xs[i]?
      else if i ≤ k ∧ k < j then xs[k + 1]?
      else if j < k ∧ k ≤ i then xs[k - 1]?
      else xs[k]? := by
  have hlen := List.length_eraseIdx_of_lt hi
  rw [List.getElem?_insertIdx]
  grind

private theorem getElem?_eq_of_neighbours {xs : List α} (lo hi : Nat)
    (h : ∀ k, lo ≤ k → k < hi → xs[k]? = xs[k + 1]?) (k : Nat)
    (hlo : lo ≤ k) (hhi : k ≤ hi) : xs[k]? = xs[hi]? := by
  obtain ⟨d, rfl⟩ := Nat.exists_eq_add_of_le hhi
  induction d with
  | zero => rfl
  | succ d ih =>
      calc
        xs[k]? = xs[k + d]? := ih (fun m hm hmd => h m hm (by omega)) (by omega)
        _ = xs[k + d + 1]? := h (k + d) (by omega) (by omega)

/-- Exchanging two entries is the same as moving one to the other's place exactly if
all entries jumped over are equal. -/
theorem swapAt?_eq_moveAt?_iff {xs : List α} {i j : Nat} (hi : i < xs.length)
    (hj : j < xs.length) :
    swapAt? xs i j = moveAt? xs i j ↔ JumpsEqual xs i j := by
  rw [swapAt?_of_lt hi hj, moveAt?_of_lt hi hj, Option.some.injEq,
    List.ext_getElem?_iff]
  simp only [getElem?_swap hi hj, getElem?_move hi hj]
  constructor
  · intro h k hk hjump
    rcases hjump with ⟨hik, hkj⟩ | ⟨hjk, hki⟩
    · -- between `i` and `j` the move shifts down, the swap does not
      refine getElem?_eq_of_neighbours (i + 1) j (fun m hm hmj => ?_) k
        (by omega) hkj
      have := h m
      grind
    · -- between `j` and `i` the move shifts up; `i` itself receives the old `j`
      have hstep : ∀ m, j ≤ m → m < i - 1 → xs[m]? = xs[m + 1]? := by
        intro m hm hmi
        have hnext := h (m + 1)
        grind
      have hlast := getElem?_eq_of_neighbours j (i - 1) hstep k hjk (by omega)
      have hfirst := getElem?_eq_of_neighbours j (i - 1) hstep j (Nat.le_refl j)
        (by omega)
      exact hlast.trans hfirst.symm
  · intro h k
    have hk := h k
    have hdown := h (k + 1)
    have hup := h (k - 1)
    unfold Jumped at hk hdown hup
    grind

/-! ## Rearranged lists -/

theorem eraseIdx_perm_iff {xs ys : List α} (h : xs.Perm ys) {i : Nat} (hi : i < xs.length)
    (hi' : i < ys.length) : (xs.eraseIdx i).Perm (ys.eraseIdx i) ↔ xs[i] = ys[i] := by
  constructor
  · intro hrest
    have hxs : (xs[i] :: xs.eraseIdx i).Perm xs := List.getElem_cons_eraseIdx_perm hi
    have hys : (ys[i] :: ys.eraseIdx i).Perm ys := List.getElem_cons_eraseIdx_perm hi'
    classical
    by_contra hne
    have hcount := (hxs.trans (h.trans hys.symm)).count_eq xs[i]
    rw [List.count_cons_self, List.count_cons_of_ne (Ne.symm hne), hrest.count_eq] at hcount
    omega
  · intro heq
    exact (List.perm_eraseIdx_of_getElem?_eq (by simp [hi, hi', heq])).mpr h

/-- Moving an entry in one list and exchanging it in the other keeps their entries the
same exactly if the two start with the same entry there. -/
theorem move_perm_swap_iff {xs ys : List α} (h : xs.Perm ys) {i j : Nat}
    (hi : i < ys.length) (hj : j < ys.length) (hi' : i < xs.length) :
    ((xs.eraseIdx i).insertIdx j ys[i]).Perm ((ys.set i ys[j]).set j ys[i]) ↔
      xs[i] = ys[i] := by
  have hle : j ≤ (xs.eraseIdx i).length := by
    rw [List.length_eraseIdx_of_lt hi', h.length_eq]
    omega
  have hmove : ((xs.eraseIdx i).insertIdx j ys[i]).Perm (ys[i] :: xs.eraseIdx i) :=
    List.perm_insertIdx _ _ hle
  have hswap : ((ys.set i ys[j]).set j ys[i]).Perm (ys[i] :: ys.eraseIdx i) :=
    (List.set_set_perm hi hj).trans (List.getElem_cons_eraseIdx_perm hi).symm
  rw [← eraseIdx_perm_iff h hi' hi]
  constructor
  · exact fun hperm => (hmove.symm.trans (hperm.trans hswap)).cons_inv
  · exact fun hperm => hmove.trans ((hperm.cons _).trans hswap.symm)

theorem JumpsEqual.of_adjacent {xs : List α} {i j : Nat}
    (h : i = j ∨ i + 1 = j ∨ j + 1 = i) : JumpsEqual xs i j := by
  intro k _ hjump
  have : k = j := by
    unfold Jumped at hjump
    omega
  rw [this]

end AdvMad.Foundation
