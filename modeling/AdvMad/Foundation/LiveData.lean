import Mathlib.Tactic.Common

/-!
# Observable values

A holder of the last value set, with the number of times it was set.  An
observer remembers the number it has seen; while it is active, and when it
becomes active, it receives the value if it has not seen it.
-/

namespace AdvMad.Foundation

variable {α : Type}

structure LiveData (α : Type) where
  value : Option α
  version : Nat
  isSome_iff : value.isSome = true ↔ 0 < version

namespace LiveData

def unset : LiveData α := ⟨none, 0, by simp⟩

def setValue (data : LiveData α) (a : α) : LiveData α :=
  ⟨some a, data.version + 1, by simp⟩

/-- The value an active observer that has seen `seen` settings receives. -/
def unseen (data : LiveData α) (seen : Nat) : Option α :=
  if seen < data.version then data.value else none

@[simp] theorem version_unset : (unset : LiveData α).version = 0 := rfl

@[simp] theorem value_setValue (data : LiveData α) (a : α) :
    (data.setValue a).value = some a := rfl

@[simp] theorem version_setValue (data : LiveData α) (a : α) :
    (data.setValue a).version = data.version + 1 := rfl

theorem value_eq_none_iff (data : LiveData α) :
    data.value = none ↔ data.version = 0 := by
  have h := data.isSome_iff
  cases hvalue : data.value <;> simp [hvalue] at h ⊢ <;> omega

theorem exists_value (data : LiveData α) (h : data.version ≠ 0) :
    ∃ a, data.value = some a := by
  have hsome := data.isSome_iff.mpr (Nat.pos_of_ne_zero h)
  exact Option.isSome_iff_exists.mp hsome

theorem unseen_eq_none_iff (data : LiveData α) (seen : Nat) :
    data.unseen seen = none ↔ data.version ≤ seen := by
  unfold unseen
  split
  · case isTrue hlt =>
      rw [value_eq_none_iff]
      omega
  · case isFalse hge => simpa using hge

theorem unseen_eq_some {data : LiveData α} {seen : Nat} {a : α}
    (h : data.unseen seen = some a) : seen < data.version ∧ data.value = some a := by
  unfold unseen at h
  split at h
  · case isTrue hlt => exact ⟨hlt, h⟩
  · cases h

end LiveData

/-! ## Posting from another thread -/

structure PostedLiveData (α : Type) where
  data : LiveData α
  pending : Option α

namespace PostedLiveData

def unset : PostedLiveData α := ⟨.unset, none⟩

/-- A value posted before an earlier one was set takes its place. -/
def postValue (posted : PostedLiveData α) (a : α) : PostedLiveData α :=
  { posted with pending := some a }

def deliver (posted : PostedLiveData α) : Option (PostedLiveData α) := do
  let a ← posted.pending
  some ⟨posted.data.setValue a, none⟩

def latest (posted : PostedLiveData α) : Option α :=
  posted.pending.or posted.data.value

@[simp] theorem latest_postValue (posted : PostedLiveData α) (a : α) :
    (posted.postValue a).latest = some a := rfl

theorem latest_deliver {posted posted' : PostedLiveData α}
    (h : posted.deliver = some posted') : posted'.latest = posted.latest := by
  cases hpending : posted.pending with
  | none => simp [deliver, hpending] at h
  | some a =>
      simp only [deliver, hpending, Option.bind_eq_bind, Option.bind_some] at h
      cases h
      simp [latest, hpending]

theorem latest_of_delivered {posted : PostedLiveData α} (h : posted.pending = none) :
    posted.latest = posted.data.value := by
  simp [latest, h]

end PostedLiveData

end AdvMad.Foundation
