import AdvMad.Foundation.PartialStep

/-!
# The Room database of lab6 and lab8

`AppDatabase.getDatabase`, the same in both apps, called from any number of
threads.  `INSTANCE` is read outside the monitor of the companion object and
written inside it.  A step of a call is one access to what the calls share:
the field, the monitor, or the builder.  Databases are numbered as they are
built.
-/

namespace AdvMad.Shared

open AdvMad.Foundation

inductive Call where
  | called
  | readNull
  | locked
  | built (database : Nat)
  | published (database : Nat)
  | returned (database : Nat)
  deriving DecidableEq, Repr

namespace Call

def waits : Call → Bool
  | .readNull | .locked => true
  | .called | .built _ | .published _ | .returned _ => false

def isBuilt : Call → Bool
  | .built _ => true
  | .called | .readNull | .locked | .published _ | .returned _ => false

def database : Call → Option Nat
  | .built database | .published database | .returned database => some database
  | .called | .readNull | .locked => none

def result : Call → Option Nat
  | .returned database => some database
  | .called | .readNull | .locked | .built _ | .published _ => none

def outside : Call → Bool
  | .called | .returned _ => true
  | .readNull | .locked | .built _ | .published _ => false

end Call

structure AppDatabase where
  INSTANCE : Option Nat
  monitor : Option Nat
  databases : Nat
  calls : List Call
  deriving DecidableEq, Repr

namespace AppDatabase

def start (callers : Nat) : AppDatabase :=
  ⟨none, none, 0, List.replicate callers .called⟩

def advance (s : AppDatabase) (caller : Nat) (call : Call) : AppDatabase :=
  { s with calls := s.calls.set caller call }

def readInstance (s : AppDatabase) (caller : Nat) : AppDatabase :=
  match s.INSTANCE with
  | some tempInstance => s.advance caller (.returned tempInstance)
  | none => s.advance caller .readNull

def enterMonitor (s : AppDatabase) (caller : Nat) : Option AppDatabase :=
  match s.monitor with
  | some _ => none
  | none => some { s.advance caller .locked with monitor := some caller }

/-- The builder runs whatever `INSTANCE` is by now. -/
def build (s : AppDatabase) (caller : Nat) : AppDatabase :=
  { s.advance caller (.built s.databases) with databases := s.databases + 1 }

def publish (s : AppDatabase) (caller database : Nat) : AppDatabase :=
  { s.advance caller (.published database) with INSTANCE := some database }

def leaveMonitor (s : AppDatabase) (caller database : Nat) : AppDatabase :=
  { s.advance caller (.returned database) with monitor := none }

def step (s : AppDatabase) (caller : Nat) : Option AppDatabase :=
  match s.calls[caller]? with
  | some .called => some (s.readInstance caller)
  | some .readNull => s.enterMonitor caller
  | some .locked => some (s.build caller)
  | some (.built database) => some (s.publish caller database)
  | some (.published database) => some (s.leaveMonitor caller database)
  | some (.returned _) | none => none

def results (s : AppDatabase) : List Nat := s.calls.filterMap Call.result

def OneDatabase (s : AppDatabase) : Prop :=
  s.databases ≤ 1 ∧ ∀ database ∈ s.results, ∀ other ∈ s.results, database = other

/-- A call that reads null does so while no other call is between its own null read and
its publication. -/
def ReadsAlone (s : AppDatabase) (caller : Nat) : Prop :=
  s.calls[caller]? = some .called → s.INSTANCE = none →
    ∀ call ∈ s.calls, call.waits = false ∧ call.isBuilt = false

def Quiet (s : AppDatabase) : Prop := ∀ call ∈ s.calls, call.outside = true

instance (s : AppDatabase) : Decidable s.OneDatabase := by
  unfold OneDatabase
  infer_instance

instance (s : AppDatabase) (caller : Nat) : Decidable (ReadsAlone s caller) := by
  unfold ReadsAlone
  infer_instance

instance (s : AppDatabase) : Decidable s.Quiet := by
  unfold Quiet
  infer_instance

/-! ## How many calls have read null -/

def nullReads (s : AppDatabase) : Nat := s.databases + s.calls.countP Call.waits

def ReadsNull (s : AppDatabase) (caller : Nat) : Prop :=
  s.calls[caller]? = some .called ∧ s.INSTANCE = none

instance (s : AppDatabase) (caller : Nat) : Decidable (ReadsNull s caller) := by
  unfold ReadsNull
  infer_instance

inductive Took (s : AppDatabase) (caller : Nat) : AppDatabase → Prop
  | readNull (hcall : s.calls[caller]? = some .called) (hnull : s.INSTANCE = none) :
      Took s caller (s.advance caller .readNull)
  | readInstance (database : Nat) (hcall : s.calls[caller]? = some .called)
      (hset : s.INSTANCE = some database) :
      Took s caller (s.advance caller (.returned database))
  | enterMonitor (hcall : s.calls[caller]? = some .readNull) (hfree : s.monitor = none) :
      Took s caller { s.advance caller .locked with monitor := some caller }
  | build (hcall : s.calls[caller]? = some .locked) : Took s caller (s.build caller)
  | publish (database : Nat) (hcall : s.calls[caller]? = some (.built database)) :
      Took s caller (s.publish caller database)
  | leaveMonitor (database : Nat) (hcall : s.calls[caller]? = some (.published database)) :
      Took s caller (s.leaveMonitor caller database)

theorem took_of_step {s s' : AppDatabase} {caller : Nat} (h : step s caller = some s') :
    Took s caller s' := by
  unfold step at h
  split at h
  · case h_1 hcall =>
      cases h
      unfold readInstance
      cases hinstance : s.INSTANCE with
      | some tempInstance => exact .readInstance tempInstance hcall hinstance
      | none => exact .readNull hcall hinstance
  · case h_2 hcall =>
      unfold enterMonitor at h
      cases hmonitor : s.monitor with
      | some owner => simp [hmonitor] at h
      | none =>
          simp only [hmonitor] at h
          cases h
          exact .enterMonitor hcall hmonitor
  · case h_3 hcall =>
      cases h
      exact .build hcall
  · case h_4 database hcall =>
      cases h
      exact .publish database hcall
  · case h_5 database hcall =>
      cases h
      exact .leaveMonitor database hcall
  · cases h
  · cases h

theorem countP_advance {s : AppDatabase} {caller : Nat} {call : Call}
    (hcall : s.calls[caller]? = some call) (p : Call → Bool) (next : Call) :
    (s.advance caller next).calls.countP p + (p call).toNat =
      s.calls.countP p + (p next).toNat := by
  obtain ⟨hlt, hget⟩ := List.getElem?_eq_some_iff.mp hcall
  have hcounted : p call = true → 0 < s.calls.countP p := fun hp =>
    List.countP_pos_iff.mpr ⟨call, List.mem_of_getElem? hcall, hp⟩
  change (s.calls.set caller next).countP p + _ = _
  rw [List.countP_set hlt, hget]
  cases hp : p call <;> cases p next <;> simp
  all_goals
    have := hcounted hp
    omega

theorem countP_advance_of_eq {s : AppDatabase} {caller : Nat} {call next : Call}
    (hcall : s.calls[caller]? = some call) {p : Call → Bool} (hp : p call = p next) :
    (s.advance caller next).calls.countP p = s.calls.countP p := by
  have hcount := countP_advance hcall p next
  rw [hp] at hcount
  omega

theorem nullReads_advance {s : AppDatabase} {caller : Nat} {call next : Call}
    (hcall : s.calls[caller]? = some call) (hwaits : call.waits = next.waits) :
    (s.advance caller next).nullReads = s.nullReads := by
  unfold nullReads
  rw [countP_advance_of_eq hcall hwaits]
  rfl

theorem not_readsNull {s : AppDatabase} {caller : Nat} {call : Call}
    (hcall : s.calls[caller]? = some call) (hcalled : call ≠ .called) :
    ¬ ReadsNull s caller := by
  rintro ⟨hfirst, -⟩
  exact hcalled (Option.some.inj (hcall.symm.trans hfirst))

theorem step_nullReads {s s' : AppDatabase} {caller : Nat} (h : step s caller = some s') :
    s'.nullReads = s.nullReads + if ReadsNull s caller then 1 else 0 := by
  cases took_of_step h with
  | readNull hcall hnull =>
      have hcount : (s.advance caller .readNull).calls.countP Call.waits =
          s.calls.countP Call.waits + 1 := countP_advance hcall Call.waits .readNull
      rw [if_pos ⟨hcall, hnull⟩, nullReads, nullReads, hcount]
      rfl
  | readInstance database hcall hset =>
      have hother : ¬ ReadsNull s caller := by simp [ReadsNull, hset]
      rw [if_neg hother]
      exact nullReads_advance hcall rfl
  | enterMonitor hcall hfree =>
      rw [if_neg (not_readsNull hcall (by decide))]
      exact nullReads_advance hcall rfl
  | build hcall =>
      -- the caller no longer waits for its database: it has become one of those built
      have hcount : (s.build caller).calls.countP Call.waits + 1 =
          s.calls.countP Call.waits := countP_advance hcall Call.waits (.built s.databases)
      have hbuilt : (s.build caller).databases = s.databases + 1 := rfl
      rw [if_neg (not_readsNull hcall (by decide)), nullReads, nullReads, hbuilt]
      omega
  | publish database hcall =>
      rw [if_neg (not_readsNull hcall (by simp))]
      exact nullReads_advance hcall rfl
  | leaveMonitor database hcall =>
      rw [if_neg (not_readsNull hcall (by simp))]
      exact nullReads_advance hcall rfl

theorem nullReads_le_of_run {s t : AppDatabase} {callers : List Nat}
    (h : run step s callers = some t) : s.nullReads ≤ t.nullReads := by
  induction callers generalizing s with
  | nil =>
      cases h
      exact Nat.le_refl _
  | cons caller callers ih =>
      obtain ⟨s', hs', hrest⟩ := Option.bind_eq_some_iff.mp h
      have hstep := step_nullReads hs'
      have hle := ih hrest
      omega

/-! ## What holds in every run -/

/-- Until `INSTANCE` is set, every database belongs to a call about to publish it. -/
structure Numbered (s : AppDatabase) : Prop where
  unpublished : s.INSTANCE = none → s.databases = s.calls.countP Call.isBuilt
  instance_lt : ∀ database, s.INSTANCE = some database → database < s.databases
  calls_lt : ∀ call ∈ s.calls, ∀ database, call.database = some database →
    database < s.databases

theorem start_numbered (callers : Nat) : (start callers).Numbered where
  unpublished _ := by simp [start, List.countP_replicate, Call.isBuilt]
  instance_lt database h := by cases h
  calls_lt call hcall database hdatabase := by
    obtain rfl := List.eq_of_mem_replicate hcall
    cases hdatabase

theorem Numbered.advance_calls_lt {s : AppDatabase} (h : s.Numbered) {bound : Nat}
    (hbound : s.databases ≤ bound) (caller : Nat) {next : Call}
    (hnext : ∀ database, next.database = some database → database < bound) :
    ∀ call ∈ (s.advance caller next).calls, ∀ database,
      call.database = some database → database < bound := by
  intro call hcall database hdatabase
  rcases List.mem_or_eq_of_mem_set hcall with hold | rfl
  · exact Nat.lt_of_lt_of_le (h.calls_lt call hold database hdatabase) hbound
  · exact hnext database hdatabase

theorem Numbered.advance {s : AppDatabase} (h : s.Numbered) {caller : Nat}
    {call next : Call} (hcall : s.calls[caller]? = some call)
    (hbuilt : call.isBuilt = next.isBuilt)
    (hnext : ∀ database, next.database = some database → database < s.databases) :
    (s.advance caller next).Numbered where
  unpublished hnull := by
    rw [countP_advance_of_eq hcall hbuilt]
    exact h.unpublished hnull
  instance_lt := h.instance_lt
  calls_lt := h.advance_calls_lt (Nat.le_refl _) caller hnext

theorem Numbered.withMonitor {s : AppDatabase} (h : s.Numbered) (owner : Option Nat) :
    { s with monitor := owner }.Numbered :=
  ⟨h.unpublished, h.instance_lt, h.calls_lt⟩

theorem step_numbered {s s' : AppDatabase} {caller : Nat} (h : s.Numbered)
    (hstep : step s caller = some s') : s'.Numbered := by
  cases took_of_step hstep with
  | readNull hcall hnull => exact h.advance hcall rfl fun database hname => nomatch hname
  | readInstance database hcall hset =>
      refine h.advance hcall rfl fun found hname => ?_
      cases hname
      exact h.instance_lt database hset
  | enterMonitor hcall hfree =>
      have hlocked : (s.advance caller .locked).Numbered :=
        h.advance hcall rfl fun database hname => nomatch hname
      exact hlocked.withMonitor _
  | build hcall =>
      constructor
      · intro hnull
        have hcount : (s.build caller).calls.countP Call.isBuilt =
            s.calls.countP Call.isBuilt + 1 := countP_advance hcall Call.isBuilt _
        rw [hcount, ← h.unpublished hnull]
        rfl
      · intro database hset
        exact Nat.lt_succ_of_lt (h.instance_lt database hset)
      · refine h.advance_calls_lt (Nat.le_succ _) caller fun database hname => ?_
        cases hname
        exact Nat.lt_succ_self _
  | publish database hcall =>
      have hlt := h.calls_lt _ (List.mem_of_getElem? hcall) database rfl
      constructor
      · intro hnull
        cases hnull
      · intro found hset
        cases hset
        exact hlt
      · refine h.advance_calls_lt (Nat.le_refl _) caller fun found hname => ?_
        cases hname
        exact hlt
  | leaveMonitor database hcall =>
      have hlt := h.calls_lt _ (List.mem_of_getElem? hcall) database rfl
      have hreturned : (s.advance caller (.returned database)).Numbered := by
        refine h.advance hcall rfl fun found hname => ?_
        cases hname
        exact hlt
      exact hreturned.withMonitor none

theorem readsAlone_iff {s : AppDatabase} (h : s.Numbered) (caller : Nat) :
    ReadsAlone s caller ↔ (ReadsNull s caller → s.nullReads = 0) := by
  have hcount (hnull : s.INSTANCE = none) : s.nullReads = 0 ↔
      ∀ call ∈ s.calls, call.waits = false ∧ call.isBuilt = false := by
    rw [nullReads, h.unpublished hnull, Nat.add_eq_zero_iff, List.countP_eq_zero,
      List.countP_eq_zero, and_comm, ← forall₂_and]
    simp
  constructor
  · rintro halone ⟨hcalled, hnull⟩
    exact (hcount hnull).mpr (halone hcalled hnull)
  · intro hzero hcalled hnull
    exact (hcount hnull).mp (hzero ⟨hcalled, hnull⟩)

theorem oneDatabase_of_nullReads {s : AppDatabase} (h : s.Numbered)
    (hle : s.nullReads ≤ 1) : s.OneDatabase := by
  have hdatabases : s.databases ≤ 1 := by
    unfold nullReads at hle
    omega
  have hzero : ∀ database ∈ s.results, database = 0 := by
    intro database hdatabase
    obtain ⟨call, hcall, hresult⟩ := List.mem_filterMap.mp hdatabase
    have hname : call.database = some database := by
      cases call with
      | returned found => exact hresult
      | called | readNull | locked | built found | published found => cases hresult
    have hlt := h.calls_lt call hcall database hname
    omega
  refine ⟨hdatabases, fun database hdatabase other hother => ?_⟩
  rw [hzero database hdatabase, hzero other hother]

def FirstNullRead (s : AppDatabase) (caller : Nat) : Prop :=
  ReadsNull s caller → s.nullReads = 0

theorem everyStep_readsAlone_iff {callers : Nat} {events : List Nat}
    (hrun : (run step (start callers) events).isSome) :
    EveryStep step ReadsAlone (start callers) events ↔
      EveryStep step FirstNullRead (start callers) events := by
  apply everyStep_congr_of_run Numbered
  · intro s caller s' h hstep
    exact step_numbered h hstep
  · intro s caller s' h _
    exact readsAlone_iff h caller
  · exact start_numbered callers
  · exact hrun

theorem always_oneDatabase {callers : Nat} {events : List Nat}
    (hrun : (run step (start callers) events).isSome)
    (hfirst : EveryStep step FirstNullRead (start callers) events) :
    Always step OneDatabase (start callers) events := by
  have hstep : ∀ s caller s', s.Numbered ∧ s.nullReads ≤ 1 → FirstNullRead s caller →
      step s caller = some s' → s'.Numbered ∧ s'.nullReads ≤ 1 := by
    rintro s caller s' ⟨hnumbered, hle⟩ hfirst hstep
    have hcount := step_nullReads hstep
    refine ⟨step_numbered hnumbered hstep, ?_⟩
    split at hcount
    · case isTrue hnull =>
        have hzero := hfirst hnull
        omega
    · omega
  have hstart : (start callers).nullReads = 0 := by
    simp [start, nullReads, List.countP_replicate, Call.waits]
  apply (always_of_run hstep ⟨start_numbered callers, by omega⟩ hrun hfirst).mono
  rintro s ⟨hnumbered, hle⟩
  exact oneDatabase_of_nullReads hnumbered hle

theorem Quiet.nullReads_eq {s : AppDatabase} (h : s.Quiet) : s.nullReads = s.databases := by
  have hnone : s.calls.countP Call.waits = 0 := by
    rw [List.countP_eq_zero]
    intro call hcall hwaits
    have houtside := h call hcall
    cases call <;> simp_all [Call.outside, Call.waits]
  rw [nullReads, hnone]
  rfl

theorem firstNullRead_of_oneDatabase {s last : AppDatabase} {events : List Nat}
    (hrun : run step s events = some last) (hquiet : last.Quiet)
    (hone : last.OneDatabase) : EveryStep step FirstNullRead s events := by
  apply (everyStep_of_run_eq hrun).mono
  rintro t caller ⟨t', rest, hstep, hrest⟩ hnull
  have hcount := step_nullReads hstep
  rw [if_pos hnull] at hcount
  have hle := nullReads_le_of_run hrest
  rw [hquiet.nullReads_eq] at hle
  have hmost := hone.1
  omega

/--
In every run: if each null read is made alone, at most one database is built
and all returned calls have it.  A run that leaves no call under way has this
property only then.
-/
theorem one_database_iff (callers : Nat) (events : List Nat) (last : AppDatabase)
    (hrun : run step (start callers) events = some last) :
    (EveryStep step ReadsAlone (start callers) events →
        Always step OneDatabase (start callers) events) ∧
      (last.Quiet →
        (Always step OneDatabase (start callers) events ↔
          EveryStep step ReadsAlone (start callers) events)) := by
  have hsome : (run step (start callers) events).isSome := by simp [hrun]
  rw [everyStep_readsAlone_iff hsome]
  refine ⟨always_oneDatabase hsome, fun hquiet => ⟨fun halways => ?_, ?_⟩⟩
  · obtain ⟨t, ht, hone⟩ := halways.final
    cases hrun.symm.trans ht
    exact firstNullRead_of_oneDatabase hrun hquiet hone
  · exact always_oneDatabase hsome

theorem one_database_three :
    let events : List Nat := [0, 0, 0, 0, 1, 0, 2]
    let last : AppDatabase := ⟨some 0, none, 1, [.returned 0, .returned 0, .returned 0]⟩
    (EveryStep step ReadsAlone (start 3) events → Always step OneDatabase (start 3) events) ∧
      (last.Quiet →
        (Always step OneDatabase (start 3) events ↔
          EveryStep step ReadsAlone (start 3) events)) :=
  one_database_iff 3 _ _ (by decide)

/-- Both callers read null before one of them takes the monitor: each builds a database
and returns its own. -/
theorem two_databases :
    let events : List Nat := [0, 1, 0, 0, 0, 0, 1, 1, 1, 1]
    run step (start 2) events = some ⟨some 1, none, 2, [.returned 0, .returned 1]⟩ ∧
      ¬ Always step OneDatabase (start 2) events := by
  decide

end AppDatabase

end AdvMad.Shared
