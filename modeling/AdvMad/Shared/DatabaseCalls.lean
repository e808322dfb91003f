import Mathlib.Algebra.GroupWithZero.Nat
import Mathlib.Data.List.Perm.Subperm
import AdvMad.Shared.AppDatabase

/-!
# The monitor around the database

What `synchronized(this)` buys the callers of `getDatabase`: one of them at a
time builds and publishes, none waits for ever, and `INSTANCE` ends as the
database that was built last.
-/

namespace AdvMad.Shared

open AdvMad.Foundation

namespace Call

def inside : Call → Bool
  | .locked | .built _ | .published _ => true
  | .called | .readNull | .returned _ => false

def remaining : Call → Nat
  | .called => 5
  | .readNull => 4
  | .locked => 3
  | .built _ => 2
  | .published _ => 1
  | .returned _ => 0

end Call

namespace AppDatabase

def remaining (s : AppDatabase) : Nat := (s.calls.map Call.remaining).sum

def Finished (s : AppDatabase) : Prop := ∀ call ∈ s.calls, call.result.isSome = true

def lastBuilt (databases : Nat) : Option Nat :=
  if databases = 0 then none else some (databases - 1)

/-! ## Progress -/

theorem sum_map_set {α : Type} (f : α → Nat) {xs : List α} {i : Nat} {x : α}
    (h : xs[i]? = some x) (y : α) :
    ((xs.set i y).map f).sum + f x = (xs.map f).sum + f y := by
  induction xs generalizing i with
  | nil => simp at h
  | cons first xs ih =>
      cases i with
      | zero =>
          simp only [List.getElem?_cons_zero, Option.some.injEq] at h
          subst h
          simp only [List.set_cons_zero, List.map_cons, List.sum_cons]
          omega
      | succ i =>
          have hrest := ih (by simpa using h)
          simp only [List.set_cons_succ, List.map_cons, List.sum_cons]
          omega

theorem remaining_advance {s : AppDatabase} {caller : Nat} {call next : Call}
    (hcall : s.calls[caller]? = some call) (hlt : next.remaining < call.remaining) :
    (s.advance caller next).remaining < s.remaining := by
  have hsum := sum_map_set Call.remaining hcall next
  unfold remaining
  change ((s.calls.set caller next).map Call.remaining).sum < _
  omega

theorem step_remaining {s s' : AppDatabase} {caller : Nat} (h : step s caller = some s') :
    s'.remaining < s.remaining := by
  cases took_of_step h with
  | readNull hcall hnull => exact remaining_advance hcall (by decide)
  | readInstance database hcall hset => exact remaining_advance hcall (by simp [Call.remaining])
  | enterMonitor hcall hfree =>
      have hlocked : (s.advance caller .locked).remaining < s.remaining :=
        remaining_advance hcall (by decide)
      exact hlocked
  | build hcall => exact remaining_advance hcall (by simp [Call.remaining])
  | publish database hcall => exact remaining_advance hcall (by simp [Call.remaining])
  | leaveMonitor database hcall => exact remaining_advance hcall (by simp [Call.remaining])

/-! ## The monitor -/

theorem getElem?_advance {s : AppDatabase} {caller : Nat} {call : Call}
    (hcall : s.calls[caller]? = some call) (next : Call) (other : Nat) :
    (s.advance caller next).calls[other]? =
      if other = caller then some next else s.calls[other]? := by
  have hlt : caller < s.calls.length := (List.getElem?_eq_some_iff.mp hcall).1
  change (s.calls.set caller next)[other]? = _
  rw [List.getElem?_set]
  by_cases hother : other = caller
  · simp [hother, hlt]
  · simp [hother, Ne.symm hother]

@[simp] theorem monitor_advance (s : AppDatabase) (caller : Nat) (next : Call) :
    (s.advance caller next).monitor = s.monitor := rfl

def Exclusive (s : AppDatabase) : Prop :=
  ∀ caller, s.monitor = some caller ↔ s.calls[caller]?.any Call.inside = true

theorem start_exclusive (callers : Nat) : (start callers).Exclusive := by
  intro caller
  by_cases hlt : caller < callers
  · simp [start, hlt, Call.inside]
  · simp [start, hlt]

theorem Exclusive.advance {s : AppDatabase} (h : s.Exclusive) {caller : Nat} {call next : Call}
    (hcall : s.calls[caller]? = some call) (hinside : call.inside = next.inside) :
    (s.advance caller next).Exclusive := by
  intro other
  have hother := h other
  rw [getElem?_advance hcall]
  by_cases heq : other = caller
  · subst heq
    rw [hcall, Option.any_some, hinside] at hother
    simpa using hother
  · simpa [heq] using hother

theorem step_exclusive {s s' : AppDatabase} {caller : Nat} (h : s.Exclusive)
    (hstep : step s caller = some s') : s'.Exclusive := by
  cases took_of_step hstep with
  | readNull hcall hnull => exact h.advance hcall rfl
  | readInstance database hcall hset => exact h.advance hcall rfl
  | build hcall => exact h.advance hcall rfl
  | publish database hcall => exact h.advance hcall rfl
  | enterMonitor hcall hfree =>
      intro other
      have hother := h other
      change some caller = some other ↔ (s.advance caller .locked).calls[other]?.any _ = true
      rw [getElem?_advance hcall]
      by_cases heq : other = caller
      · simp [heq, Call.inside]
      · rw [hfree] at hother
        simpa [heq, Ne.symm heq] using hother
  | leaveMonitor database hcall =>
      intro other
      have hother := h other
      have howner : s.monitor = some caller := (h caller).mpr (by simp [hcall, Call.inside])
      change none = some other ↔
        (s.advance caller (.returned database)).calls[other]?.any _ = true
      rw [getElem?_advance hcall]
      by_cases heq : other = caller
      · simp [heq, Call.inside]
      · rw [howner] at hother
        simpa [heq, Ne.symm heq] using hother

/-- The owner of the monitor can go on; without an owner every other call can. -/
theorem Exclusive.finished_or_step {s : AppDatabase} (h : s.Exclusive) :
    s.Finished ∨ ∃ caller, (step s caller).isSome = true := by
  cases hmonitor : s.monitor with
  | some owner =>
      refine .inr ⟨owner, ?_⟩
      have hinside := (h owner).mp hmonitor
      cases hcall : s.calls[owner]? with
      | none => simp [hcall] at hinside
      | some call =>
          rw [hcall] at hinside
          cases call with
          | called | readNull | returned database => simp [Call.inside] at hinside
          | locked | built database | published database => simp [step, hcall]
  | none =>
      by_cases hfinished : s.Finished
      · exact .inl hfinished
      · refine .inr ?_
        simp only [Finished, not_forall] at hfinished
        obtain ⟨call, hmem, hcall⟩ := hfinished
        obtain ⟨caller, hcaller⟩ := List.mem_iff_getElem?.mp hmem
        have hinside := h caller
        rw [hmonitor, hcaller] at hinside
        refine ⟨caller, ?_⟩
        cases call with
        | returned database => simp [Call.result] at hcall
        | locked | built database | published database => simp [Call.inside] at hinside
        | called | readNull => simp [step, hcaller, enterMonitor, hmonitor]

theorem Exclusive.eq_of_inside {s : AppDatabase} (h : s.Exclusive) {caller other : Nat}
    {call found : Call} (hcall : s.calls[caller]? = some call)
    (hfound : s.calls[other]? = some found) (hinside : call.inside = true)
    (hfoundInside : found.inside = true) : other = caller := by
  have howner : s.monitor = some caller := (h caller).mpr (by simpa [hcall] using hinside)
  have howner' : s.monitor = some other := (h other).mpr (by simpa [hfound] using hfoundInside)
  exact Option.some.inj (howner'.symm.trans howner)

theorem Finished.step_eq_none {s : AppDatabase} (h : s.Finished) (caller : Nat) :
    step s caller = none := by
  cases hcall : s.calls[caller]? with
  | none => simp [step, hcall]
  | some call =>
      have hresult := h call (List.mem_of_getElem? hcall)
      cases call with
      | returned database => simp [step, hcall]
      | called | readNull | locked | built database | published database =>
          simp [Call.result] at hresult

/--
In every state that the callers reach, the owner of the monitor is the call
between entering and leaving it, so that at most one call builds at a time.
Someone can go on until all calls have returned, which takes at most five
steps a call.
-/
theorem calls_exclude_and_return (callers : Nat) (events : List Nat) (s : AppDatabase)
    (hrun : run step (start callers) events = some s) :
    (∀ caller call, s.calls[caller]? = some call →
        (call.inside = true ↔ s.monitor = some caller)) ∧
      ((∀ caller, step s caller = none) ↔ s.Finished) ∧
      events.length ≤ 5 * callers := by
  have hexclusive := run_keeps (fun _ _ _ => step_exclusive) (start_exclusive callers) hrun
  refine ⟨?_, ⟨?_, Finished.step_eq_none⟩, ?_⟩
  · intro caller call hcall
    have howner := hexclusive caller
    rw [hcall, Option.any_some] at howner
    exact howner.symm
  · intro hstuck
    rcases hexclusive.finished_or_step with hfinished | ⟨caller, hstep⟩
    · exact hfinished
    · simp [hstuck caller] at hstep
  · have hlength := length_le_of_run (fun _ _ _ => step_remaining) hrun
    have hstart : (start callers).remaining = callers * 5 := by
      simp [start, remaining, Call.remaining]
    omega

theorem calls_exclude_and_return_two :
    let events : List Nat := [0, 1, 0, 0, 0]
    let s : AppDatabase := ⟨some 0, some 0, 1, [.published 0, .readNull]⟩
    (∀ caller call, s.calls[caller]? = some call →
        (call.inside = true ↔ s.monitor = some caller)) ∧
      ((∀ caller, step s caller = none) ↔ s.Finished) ∧
      events.length ≤ 5 * 2 :=
  calls_exclude_and_return 2 _ _ (by decide)

/-! ## What the monitor keeps in order -/

/-- A database is published before the next one is built, and every database is handed
to a call. -/
structure Serial (s : AppDatabase) : Prop where
  built_last : ∀ (caller database : Nat), s.calls[caller]? = some (.built database) →
    database + 1 = s.databases
  latest : (∀ caller database : Nat, s.calls[caller]? ≠ some (.built database)) →
    s.INSTANCE = lastBuilt s.databases
  handed : ∀ database < s.databases, ∃ (caller : Nat) (call : Call),
    s.calls[caller]? = some call ∧ call.database = some database

theorem start_serial (callers : Nat) : (start callers).Serial where
  built_last caller database hcall := by
    have hcalled := List.eq_of_mem_replicate (List.mem_of_getElem? hcall)
    cases hcalled
  latest _ := rfl
  handed database hlt := absurd hlt (Nat.not_lt_zero _)

theorem Serial.handed_advance {s : AppDatabase} (h : s.Serial) {caller : Nat}
    {call next : Call} (hcall : s.calls[caller]? = some call)
    (hkeeps : ∀ database, call.database = some database → next.database = some database) :
    ∀ database < s.databases, ∃ (other : Nat) (found : Call),
      (s.advance caller next).calls[other]? = some found ∧
        found.database = some database := by
  intro database hlt
  obtain ⟨other, found, hfound, hdatabase⟩ := h.handed database hlt
  by_cases heq : other = caller
  · subst heq
    cases hcall.symm.trans hfound
    exact ⟨other, next, by simp [getElem?_advance hcall], hkeeps database hdatabase⟩
  · exact ⟨other, found, by simpa [getElem?_advance hcall, heq] using hfound, hdatabase⟩

theorem Serial.advance {s : AppDatabase} (h : s.Serial) {caller : Nat} {call next : Call}
    (hcall : s.calls[caller]? = some call) (hbuilt : call.isBuilt = false)
    (hnext : next.isBuilt = false)
    (hkeeps : ∀ database, call.database = some database → next.database = some database) :
    (s.advance caller next).Serial where
  built_last other database hother := by
    rw [getElem?_advance hcall] at hother
    by_cases heq : other = caller
    · rw [if_pos heq] at hother
      cases hother
      cases hnext
    · rw [if_neg heq] at hother
      exact h.built_last other database hother
  latest hnone := by
    apply h.latest
    intro other database hother
    have hafter := hnone other database
    rw [getElem?_advance hcall] at hafter
    by_cases heq : other = caller
    · subst heq
      cases hcall.symm.trans hother
      cases hbuilt
    · rw [if_neg heq] at hafter
      exact hafter hother
  handed := h.handed_advance hcall hkeeps

theorem Serial.withMonitor {s : AppDatabase} (h : s.Serial) (owner : Option Nat) :
    { s with monitor := owner }.Serial :=
  ⟨h.built_last, h.latest, h.handed⟩

theorem step_serial {s s' : AppDatabase} {caller : Nat} (hexclusive : s.Exclusive)
    (h : s.Serial) (hstep : step s caller = some s') : s'.Serial := by
  cases took_of_step hstep with
  | readNull hcall hnull => exact h.advance hcall rfl rfl fun _ hname => nomatch hname
  | readInstance database hcall hset =>
      exact h.advance hcall rfl rfl fun _ hname => nomatch hname
  | enterMonitor hcall hfree =>
      have hlocked : (s.advance caller .locked).Serial :=
        h.advance hcall rfl rfl fun _ hname => nomatch hname
      exact hlocked.withMonitor _
  | leaveMonitor database hcall =>
      have hreturned : (s.advance caller (.returned database)).Serial :=
        h.advance hcall rfl rfl fun _ hname => hname
      exact hreturned.withMonitor none
  | build hcall =>
      constructor
      · intro other database hother
        change (s.advance caller (.built s.databases)).calls[other]? = _ at hother
        rw [getElem?_advance hcall] at hother
        by_cases heq : other = caller
        · rw [if_pos heq] at hother
          cases hother
          rfl
        · -- the monitor admits no second call
          rw [if_neg heq] at hother
          exact absurd (hexclusive.eq_of_inside hcall hother rfl rfl) heq
      · intro hnone
        have hafter := hnone caller s.databases
        change (s.advance caller (.built s.databases)).calls[caller]? ≠ _ at hafter
        simp [getElem?_advance hcall] at hafter
      · intro database hlt
        change database < s.databases + 1 at hlt
        by_cases hnew : database = s.databases
        · subst hnew
          refine ⟨caller, .built s.databases, ?_, rfl⟩
          change (s.advance caller (.built s.databases)).calls[caller]? = _
          simp [getElem?_advance hcall]
        · exact h.handed_advance hcall (fun _ hname => nomatch hname) database (by omega)
  | publish database hcall =>
      have hlast := h.built_last caller database hcall
      constructor
      · intro other found hother
        change (s.advance caller (.published database)).calls[other]? = _ at hother
        rw [getElem?_advance hcall] at hother
        by_cases heq : other = caller
        · rw [if_pos heq] at hother
          cases hother
        · rw [if_neg heq] at hother
          exact absurd (hexclusive.eq_of_inside hcall hother rfl rfl) heq
      · intro _
        change some database = lastBuilt s.databases
        rw [← hlast]
        simp [lastBuilt]
      · exact h.handed_advance hcall fun _ hname => hname

structure Ordered (callers : Nat) (s : AppDatabase) : Prop where
  exclusive : s.Exclusive
  serial : s.Serial
  numbered : s.Numbered
  length_calls : s.calls.length = callers

theorem step_length {s s' : AppDatabase} {caller : Nat} (h : step s caller = some s') :
    s'.calls.length = s.calls.length := by
  cases took_of_step h with
  | readNull | readInstance | enterMonitor | build | publish | leaveMonitor =>
      exact List.length_set

theorem run_ordered {callers : Nat} {events : List Nat} {s : AppDatabase}
    (hrun : run step (start callers) events = some s) : s.Ordered callers := by
  have hstep : ∀ t caller t', Ordered callers t → step t caller = some t' →
      Ordered callers t' := fun t caller t' h ht => {
    exclusive := step_exclusive h.exclusive ht
    serial := step_serial h.exclusive h.serial ht
    numbered := step_numbered h.numbered ht
    length_calls := (step_length ht).trans h.length_calls }
  have hstart : Ordered callers (start callers) := {
    exclusive := start_exclusive callers
    serial := start_serial callers
    numbered := start_numbered callers
    length_calls := by simp [start] }
  exact run_keeps hstep hstart hrun

/--
When all calls have returned, they have returned exactly the databases that
were built, no more than there are callers, and later callers get the one that
was built last.
-/
theorem finished_calls_share_databases (callers : Nat) (events : List Nat) (s : AppDatabase)
    (hrun : run step (start callers) events = some s) (hfinished : s.Finished) :
    s.results.length = callers ∧
      (∀ database, database ∈ s.results ↔ database < s.databases) ∧
      s.databases ≤ callers ∧ s.INSTANCE = lastBuilt s.databases ∧ s.monitor = none := by
  have h := run_ordered hrun
  have hreturned : ∀ call ∈ s.calls, ∃ database, call = .returned database := by
    intro call hcall
    have hresult := hfinished call hcall
    cases call with
    | returned database => exact ⟨database, rfl⟩
    | called | readNull | locked | built database | published database =>
        simp [Call.result] at hresult
  have hlength : s.results.length = callers := by
    rw [← h.length_calls]
    exact List.filterMap_length_eq_length.mpr hfinished
  have hresults : ∀ database, database ∈ s.results ↔ database < s.databases := by
    intro database
    constructor
    · intro hdatabase
      obtain ⟨call, hcall, hresult⟩ := List.mem_filterMap.mp hdatabase
      obtain ⟨found, rfl⟩ := hreturned call hcall
      exact h.numbered.calls_lt _ hcall database hresult
    · intro hlt
      obtain ⟨caller, call, hcall, hdatabase⟩ := h.serial.handed database hlt
      have hmem := List.mem_of_getElem? hcall
      obtain ⟨found, rfl⟩ := hreturned call hmem
      exact List.mem_filterMap.mpr ⟨_, hmem, hdatabase⟩
  refine ⟨hlength, hresults, ?_, ?_, ?_⟩
  · have hsubset : List.range s.databases ⊆ s.results := fun database hdatabase =>
      (hresults database).mpr (List.mem_range.mp hdatabase)
    have hle := (List.subperm_of_subset List.nodup_range hsubset).length_le
    rwa [List.length_range, hlength] at hle
  · apply h.serial.latest
    intro caller database hcall
    obtain ⟨found, hfound⟩ := hreturned _ (List.mem_of_getElem? hcall)
    cases hfound
  · cases hmonitor : s.monitor with
    | none => rfl
    | some owner =>
        have hinside := (h.exclusive owner).mp hmonitor
        cases hcall : s.calls[owner]? with
        | none => simp [hcall] at hinside
        | some call =>
            obtain ⟨found, rfl⟩ := hreturned call (List.mem_of_getElem? hcall)
            simp [hcall, Call.inside] at hinside

theorem finished_calls_share_databases_two :
    let s : AppDatabase := ⟨some 1, none, 2, [.returned 0, .returned 1, .returned 1]⟩
    s.results.length = 3 ∧
      (∀ database, database ∈ s.results ↔ database < s.databases) ∧
      s.databases ≤ 3 ∧ s.INSTANCE = lastBuilt s.databases ∧ s.monitor = none :=
  finished_calls_share_databases 3 [0, 1, 0, 0, 0, 0, 1, 1, 1, 1, 2] _ (by decide)
    (by unfold Finished; decide)

end AppDatabase

end AdvMad.Shared
