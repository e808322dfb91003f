import Mathlib.Data.List.Sort
import AdvMad.Foundation.PartialStep

/-!
# Interleavings

Threads that each perform a list of steps on a shared state, of which only
`obs` is looked at.  A step of an interleaving belongs to the thread `key`.
An interleaving in which every two steps that stand against the order of their
threads may be exchanged ends like the execution of one thread after another.
-/

namespace AdvMad.Foundation

variable {σ ε τ : Type*} {step : σ → ε → Option σ} {obs : σ → τ}

def Congruent (step : σ → ε → Option σ) (obs : σ → τ) : Prop :=
  ∀ s t e, obs s = obs t → (step s e).map obs = (step t e).map obs

def Exchange (step : σ → ε → Option σ) (obs : σ → τ) (a b : ε) : Prop :=
  ∀ s, (run step s [a, b]).map obs = (run step s [b, a]).map obs

theorem Exchange.symm {a b : ε} (h : Exchange step obs a b) : Exchange step obs b a :=
  fun s => (h s).symm

theorem run_congr (h : Congruent step obs) (es : List ε) {s t : σ}
    (hst : obs s = obs t) : (run step s es).map obs = (run step t es).map obs := by
  induction es generalizing s t with
  | nil => simp [hst]
  | cons e es ih =>
      have he := h s t e hst
      rw [run_cons, run_cons]
      cases hs : step s e with
      | none =>
          rw [hs, Option.map_none] at he
          simp [Option.map_eq_none_iff.mp he.symm]
      | some s' =>
          rw [hs, Option.map_some] at he
          obtain ⟨t', ht', hobs⟩ := Option.map_eq_some_iff.mp he.symm
          rw [ht']
          exact ih hobs.symm

theorem bind_run_congr (h : Congruent step obs) (es : List ε) {x y : Option σ}
    (hxy : x.map obs = y.map obs) :
    (x.bind fun s => run step s es).map obs = (y.bind fun s => run step s es).map obs := by
  cases x with
  | none =>
      rw [Option.map_none] at hxy
      simp [Option.map_eq_none_iff.mp hxy.symm]
  | some s =>
      rw [Option.map_some] at hxy
      obtain ⟨t, rfl, hobs⟩ := Option.map_eq_some_iff.mp hxy.symm
      exact run_congr h es hobs.symm

theorem Exchange.run_cons_cons {a b : ε} (h : Congruent step obs)
    (hab : Exchange step obs a b) (s : σ) (es : List ε) :
    (run step s (a :: b :: es)).map obs = (run step s (b :: a :: es)).map obs := by
  have hswap := bind_run_congr h es (hab s)
  rwa [← run_append, ← run_append] at hswap

section Threads

variable {κ : Type*} [LinearOrder κ] {key : ε → κ}

theorem run_orderedInsert (h : Congruent step obs) (s : σ) (a : ε) (es : List ε)
    (ha : ∀ b ∈ es, key a ≤ key b ∨ Exchange step obs a b) :
    (run step s (es.orderedInsert (fun x y => key x ≤ key y) a)).map obs =
      (run step s (a :: es)).map obs := by
  induction es generalizing s with
  | nil => rfl
  | cons b es ih =>
      rw [List.orderedInsert_cons]
      split
      · rfl
      · case isFalse hlt =>
          have hab := (ha b (by simp)).resolve_left hlt
          rw [hab.run_cons_cons h, run_cons, run_cons]
          cases step s b with
          | none => rfl
          | some s' => exact ih s' fun c hc => ha c (by simp [hc])

theorem run_insertionSort (h : Congruent step obs) (s : σ) {es : List ε}
    (hes : es.Pairwise fun a b => key a ≤ key b ∨ Exchange step obs a b) :
    (run step s (es.insertionSort fun x y => key x ≤ key y)).map obs =
      (run step s es).map obs := by
  induction es generalizing s with
  | nil => rfl
  | cons a es ih =>
      rw [List.pairwise_cons] at hes
      rw [List.insertionSort_cons, run_orderedInsert h]
      · rw [run_cons, run_cons]
        cases step s a with
        | none => rfl
        | some s' => exact ih s' hes.2
      · intro b hb
        exact hes.1 b ((List.mem_insertionSort _).mp hb)

theorem filter_insertionSort (es : List ε) (i : κ) :
    (es.insertionSort fun x y => key x ≤ key y).filter (key · = i) =
      es.filter (key · = i) := by
  have hsame : (es.filter (key · = i)).Pairwise fun x y => key x ≤ key y := by
    apply List.pairwise_of_forall_mem_list
    intro x hx y hy
    have hkeys : key x = i ∧ key y = i := by simp_all
    rw [hkeys.1, hkeys.2]
  have hsub := List.sublist_insertionSort hsame List.filter_sublist
  have hfilter := hsub.filter (key · = i)
  rw [List.filter_filter] at hfilter
  simp only [Bool.and_self] at hfilter
  have hperm := (List.perm_insertionSort (fun x y => key x ≤ key y) es).filter (key · = i)
  exact (hfilter.eq_of_length hperm.length_eq.symm).symm

theorem eq_of_sorted_of_filter_eq {es fs : List ε}
    (hes : es.Pairwise fun x y => key x ≤ key y) (hfs : fs.Pairwise fun x y => key x ≤ key y)
    (h : ∀ i, es.filter (key · = i) = fs.filter (key · = i)) : es = fs := by
  have hmem : ∀ {l k : List ε}, (∀ i, l.filter (key · = i) = k.filter (key · = i)) →
      ∀ x ∈ l, x ∈ k := by
    intro l k hlk x hx
    have hfilter : x ∈ k.filter (key · = key x) := by
      rw [← hlk]
      simp [hx]
    exact List.mem_of_mem_filter hfilter
  induction es generalizing fs with
  | nil =>
      cases fs with
      | nil => rfl
      | cons b fs => simpa using hmem (fun i => (h i).symm) b (by simp)
  | cons a es ih =>
      cases fs with
      | nil => simpa using hmem h a (by simp)
      | cons b fs =>
          rw [List.pairwise_cons] at hes hfs
          have hle : key a ≤ key b := by
            have hb := hmem (fun i => (h i).symm) b (by simp)
            rcases List.mem_cons.mp hb with rfl | hb
            · exact le_rfl
            · exact hes.1 b hb
          have hge : key b ≤ key a := by
            have ha := hmem h a (by simp)
            rcases List.mem_cons.mp ha with rfl | ha
            · exact le_rfl
            · exact hfs.1 a ha
          have hkey : key a = key b := le_antisymm hle hge
          have hhead := h (key b)
          simp only [List.filter_cons, hkey, decide_true, if_true, List.cons.injEq] at hhead
          obtain ⟨rfl, -⟩ := hhead
          have htail : ∀ i, es.filter (key · = i) = fs.filter (key · = i) := by
            intro i
            have hi := h i
            by_cases hai : key a = i
            · simpa [List.filter_cons, hai] using hi
            · simpa [List.filter_cons, hai] using hi
          rw [ih hes.2 hfs.2 htail]

theorem insertionSort_eq_serial {es serial : List ε}
    (hserial : serial.Pairwise fun x y => key x ≤ key y)
    (hthreads : ∀ i, es.filter (key · = i) = serial.filter (key · = i)) :
    es.insertionSort (fun x y => key x ≤ key y) = serial := by
  apply eq_of_sorted_of_filter_eq _ hserial
  · intro i
    rw [filter_insertionSort, hthreads]
  · exact List.pairwise_insertionSort (fun x y => key x ≤ key y) es

/-- No step is lost or executed twice. -/
theorem perm_serial {es serial : List ε}
    (hserial : serial.Pairwise fun x y => key x ≤ key y)
    (hthreads : ∀ i, es.filter (key · = i) = serial.filter (key · = i)) :
    es.Perm serial := by
  have hperm := List.perm_insertionSort (fun x y => key x ≤ key y) es
  rw [insertionSort_eq_serial hserial hthreads] at hperm
  exact hperm.symm

/--
Two interleavings of the same threads.  Where the steps that `es` takes against
the order of the threads may be exchanged, it ends like the execution of one
thread after another.
-/
theorem run_eq_serial (h : Congruent step obs) {es serial : List ε}
    (hserial : serial.Pairwise fun x y => key x ≤ key y)
    (hthreads : ∀ i, es.filter (key · = i) = serial.filter (key · = i))
    (hexchange : es.Pairwise fun a b => key a ≤ key b ∨ Exchange step obs a b) (s : σ) :
    (run step s es).map obs = (run step s serial).map obs := by
  have hsort := run_insertionSort h s hexchange
  rw [insertionSort_eq_serial hserial hthreads] at hsort
  exact hsort.symm

end Threads

end AdvMad.Foundation
