import Mathlib.Data.List.Nodup
import Mathlib.Logic.Function.Basic

/-!
# Tables with a primary key

Rows in the order in which they were last written, no two of the same key.
`get` sees a table as a finite map from keys to rows; on it `upsert` and
`delete` are updates at one key.
-/

namespace AdvMad.Foundation

variable {κ ρ : Type} [DecidableEq κ]

structure KeyedRows (key : ρ → κ) where
  rows : List ρ
  nodup_keys : (rows.map key).Nodup

namespace KeyedRows

variable {key : ρ → κ}

def empty : KeyedRows key := ⟨[], List.nodup_nil⟩

def delete (table : KeyedRows key) (k : κ) : KeyedRows key where
  rows := table.rows.filter fun row => key row ≠ k
  nodup_keys := table.nodup_keys.sublist (List.filter_sublist.map key)

theorem key_notMem_delete (table : KeyedRows key) (k : κ) :
    k ∉ (table.delete k).rows.map key := by
  simp [delete]

/-- Insert the row, in place of the row of its key if there is one. -/
def upsert (table : KeyedRows key) (row : ρ) : KeyedRows key where
  rows := (table.delete (key row)).rows ++ [row]
  nodup_keys := by
    rw [List.map_append, List.map_singleton, List.nodup_append_comm]
    exact List.nodup_cons.mpr
      ⟨table.key_notMem_delete (key row), (table.delete (key row)).nodup_keys⟩

def get (table : KeyedRows key) (k : κ) : Option ρ :=
  table.rows.find? fun row => key row = k

theorem mem_of_get {table : KeyedRows key} {k : κ} {row : ρ}
    (h : table.get k = some row) : row ∈ table.rows :=
  List.mem_of_find?_eq_some h

theorem key_of_get {table : KeyedRows key} {k : κ} {row : ρ}
    (h : table.get k = some row) : key row = k := by
  unfold get at h
  simpa using List.find?_some h

theorem get_eq_some_iff {table : KeyedRows key} {k : κ} {row : ρ} :
    table.get k = some row ↔ row ∈ table.rows ∧ key row = k := by
  constructor
  · intro h
    exact ⟨mem_of_get h, key_of_get h⟩
  · rintro ⟨hmem, rfl⟩
    have hsome : (table.get (key row)).isSome = true :=
      List.find?_isSome.mpr ⟨row, hmem, by simp⟩
    obtain ⟨other, hother⟩ := Option.isSome_iff_exists.mp hsome
    have heq : other = row :=
      List.inj_on_of_nodup_map table.nodup_keys (mem_of_get hother) hmem
        (key_of_get hother)
    rw [hother, heq]

theorem get_eq_none_iff {table : KeyedRows key} {k : κ} :
    table.get k = none ↔ ∀ row ∈ table.rows, key row ≠ k := by
  simp [get]

theorem get_ext {table other : KeyedRows key} {k : κ}
    (h : ∀ row, key row = k → (row ∈ table.rows ↔ row ∈ other.rows)) :
    table.get k = other.get k := by
  apply Option.ext
  intro row
  rw [get_eq_some_iff, get_eq_some_iff]
  exact and_congr_left (h row)

theorem mem_delete {table : KeyedRows key} {k : κ} {row : ρ} :
    row ∈ (table.delete k).rows ↔ row ∈ table.rows ∧ key row ≠ k := by
  simp [delete]

theorem mem_upsert {table : KeyedRows key} {new row : ρ} :
    row ∈ (table.upsert new).rows ↔
      (row ∈ table.rows ∧ key row ≠ key new) ∨ row = new := by
  simp [upsert, mem_delete]

@[simp] theorem get_delete (table : KeyedRows key) (k : κ) :
    (table.delete k).get = Function.update table.get k none := by
  funext other
  by_cases h : other = k
  · subst h
    rw [Function.update_self, get_eq_none_iff]
    exact fun row hrow => (mem_delete.mp hrow).2
  · rw [Function.update_of_ne h]
    apply get_ext
    intro row hkey
    rw [mem_delete, hkey]
    exact and_iff_left h

@[simp] theorem get_upsert (table : KeyedRows key) (row : ρ) :
    (table.upsert row).get = Function.update table.get (key row) (some row) := by
  funext other
  by_cases h : other = key row
  · subst h
    rw [Function.update_self, get_eq_some_iff]
    exact ⟨mem_upsert.mpr (.inr rfl), rfl⟩
  · rw [Function.update_of_ne h]
    apply get_ext
    intro old hkey
    have hne : old ≠ row := fun heq => h (by rw [← hkey, heq])
    rw [mem_upsert, hkey]
    simp [h, hne]

theorem rows_upsert_of_notMem {table : KeyedRows key} {row : ρ}
    (h : key row ∉ table.rows.map key) :
    (table.upsert row).rows = table.rows ++ [row] := by
  have hkeep : (table.delete (key row)).rows = table.rows := by
    apply List.filter_eq_self.mpr
    intro old hold
    have hne : key old ≠ key row := fun heq => h (heq ▸ List.mem_map_of_mem hold)
    simpa using hne
  exact congrArg (· ++ [row]) hkeep

theorem rows_foldl_upsert {table : KeyedRows key} {new : List ρ}
    (h : ((table.rows ++ new).map key).Nodup) :
    (new.foldl upsert table).rows = table.rows ++ new := by
  induction new generalizing table with
  | nil => simp
  | cons row new ih =>
      have hfresh : key row ∉ table.rows.map key := by
        intro hmem
        rw [List.map_append, List.nodup_append] at h
        exact h.2.2 _ hmem _ (by simp) rfl
      have hrows := rows_upsert_of_notMem hfresh
      have hnodup : (((table.upsert row).rows ++ new).map key).Nodup := by
        rw [hrows]
        simpa using h
      rw [List.foldl_cons, ih hnodup, hrows]
      simp

end KeyedRows

end AdvMad.Foundation
