import Mathlib.Order.Lattice
import Mathlib.Order.Nat
import AdvMad.Foundation.PartialStep
import AdvMad.Foundation.SortBy
import AdvMad.Miles.RunDataController

/-!
# miles: the run table

Every snapshot of the user's `runs` collection replaces the runs of the data
controller and, sorted by date, those of `RunTableViewController`.
-/

namespace AdvMad.Miles

open AdvMad.Foundation
open RunDataController

variable {Date Mileage : Type} [LinearOrder Date]

inductive ListenerEvent (Mileage : Type) where
  | error
  | snapshot (documents : List (Document Mileage))

structure RunTableViewController (Date Mileage : Type) where
  dcRunData : List (Run Date Mileage)
  runData : List (Run Date Mileage)

namespace RunTableViewController

def new : RunTableViewController Date Mileage := ⟨[], []⟩

/-- `r1.date.compare(r2.date) == .orderedDescending` -/
def newerFirst (r1 r2 : Run Date Mileage) : Bool :=
  compare r1.date r2.date == .gt

def newData (sortBy : SortBy (Run Date Mileage)) (vc : RunTableViewController Date Mileage)
    (data : List (Run Date Mileage)) : RunTableViewController Date Mileage :=
  { vc with runData := sortBy.sort newerFirst data }

/-- The listener attached by `loadData`, which calls `newData` through `onDataUpdate`. -/
def step (conversion : DateConversion Date) (sortBy : SortBy (Run Date Mileage))
    (vc : RunTableViewController Date Mileage) :
    ListenerEvent Mileage → Option (RunTableViewController Date Mileage)
  | .error => some vc
  | .snapshot documents => do
      let runData ← appendRuns conversion [] documents
      some (newData sortBy { vc with dcRunData := runData } runData)

def latest (documents : List (Document Mileage)) :
    ListenerEvent Mileage → List (Document Mileage)
  | .error => documents
  | .snapshot new => new

def lastSnapshot (events : List (ListenerEvent Mileage)) :
    List (Document Mileage) :=
  events.foldl latest []

def WellFormed : ListenerEvent Mileage → Prop
  | .error => True
  | .snapshot documents =>
      (documents.map Document.documentID).Nodup ∧ ∀ doc ∈ documents, WellTyped doc

structure Mirrors (conversion : DateConversion Date) (documents : List (Document Mileage))
    (vc : RunTableViewController Date Mileage) : Prop where
  parsed : List.Forall₂ (IsRunOf conversion) documents vc.dcRunData
  perm : vc.runData.Perm vc.dcRunData
  nodup : (vc.runData.map Run.id).Nodup
  sorted : vc.runData.Pairwise fun r1 r2 => r2.date ≤ r1.date

theorem newerFirst_iff {r1 r2 : Run Date Mileage} :
    newerFirst r1 r2 = true ↔ r2.date < r1.date := by
  rw [newerFirst, beq_iff_eq, compare_gt_iff_gt]

theorem newerFirst_strictWeakOrder :
    IsStrictWeakOrder (Run Date Mileage) fun r1 r2 => newerFirst r1 r2 = true where
  irrefl r hr := lt_irrefl r.date (newerFirst_iff.mp hr)
  trans r1 r2 r3 h12 h23 :=
    newerFirst_iff.mpr ((newerFirst_iff.mp h23).trans (newerFirst_iff.mp h12))
  incomp_trans r1 r2 r3 h12 h23 := by
    -- incomparable runs have equal dates
    have hdate12 : r1.date = r2.date := by
      simp only [newerFirst_iff, not_lt] at h12
      exact le_antisymm h12.1 h12.2
    have hdate23 : r2.date = r3.date := by
      simp only [newerFirst_iff, not_lt] at h23
      exact le_antisymm h23.1 h23.2
    simp [newerFirst_iff, hdate12, hdate23]

theorem new_mirrors (conversion : DateConversion Date) :
    Mirrors conversion [] (new : RunTableViewController Date Mileage) where
  parsed := .nil
  perm := List.Perm.refl []
  nodup := List.nodup_nil
  sorted := List.Pairwise.nil

theorem snapshot_mirrors (conversion : DateConversion Date) (sortBy : SortBy (Run Date Mileage))
    (vc : RunTableViewController Date Mileage) {documents : List (Document Mileage)}
    (h : WellFormed (.snapshot documents)) :
    ∃ vc', step conversion sortBy vc (.snapshot documents) = some vc' ∧
      Mirrors conversion documents vc' := by
  obtain ⟨runs, hruns, hparsed⟩ := mapM_parseRun_wellTyped conversion h.2
  have hperm : (sortBy.sort newerFirst runs).Perm runs :=
    sortBy.perm _ newerFirst_strictWeakOrder runs
  have hsorted := sortBy.sorted _ newerFirst_strictWeakOrder runs
  refine ⟨⟨runs, sortBy.sort newerFirst runs⟩, ?_, hparsed, hperm, ?_, ?_⟩
  · simp [step, appendRuns_eq, hruns, newData]
  · rw [(hperm.map Run.id).nodup_iff, ids_of_isRunOf hparsed]
    exact h.1
  · apply hsorted.imp
    intro r1 r2 hr
    simpa [newerFirst_iff] using mt newerFirst_iff.mpr (by simp [hr] : ¬ newerFirst r2 r1 = true)

theorem run_mirrors (conversion : DateConversion Date) (sortBy : SortBy (Run Date Mileage))
    {vc : RunTableViewController Date Mileage} {documents : List (Document Mileage)}
    (h : Mirrors conversion documents vc) {events : List (ListenerEvent Mileage)}
    (hevents : ∀ event ∈ events, WellFormed event) :
    ∃ vc', run (step conversion sortBy) vc events = some vc' ∧
      Mirrors conversion (events.foldl latest documents) vc' := by
  induction events generalizing vc documents with
  | nil => exact ⟨vc, rfl, h⟩
  | cons event events ih =>
      have hrest : ∀ later ∈ events, WellFormed later := fun later hlater =>
        hevents later (List.mem_cons_of_mem _ hlater)
      cases event with
      | error =>
          obtain ⟨vc', hvc', hmirrors⟩ := ih h hrest
          exact ⟨vc', hvc', hmirrors⟩
      | snapshot new =>
          have hnew : WellFormed (.snapshot new) := hevents _ List.mem_cons_self
          obtain ⟨next, hnext, hnextMirrors⟩ := snapshot_mirrors conversion sortBy vc hnew
          obtain ⟨vc', hvc', hmirrors⟩ := ih hnextMirrors hrest
          exact ⟨vc', by simp [hnext, hvc'], hmirrors⟩

/-- After every sequence of events the table shows the last snapshot, and an error that
follows changes nothing. -/
theorem runData_mirrors_last_snapshot (conversion : DateConversion Date)
    (sortBy : SortBy (Run Date Mileage)) (events : List (ListenerEvent Mileage))
    (hevents : ∀ event ∈ events, WellFormed event) :
    ∃ vc, run (step conversion sortBy) new events = some vc ∧
      Mirrors conversion (lastSnapshot events) vc ∧
      step conversion sortBy vc .error = some vc := by
  obtain ⟨vc, hvc, hmirrors⟩ := run_mirrors conversion sortBy (new_mirrors conversion) hevents
  exact ⟨vc, hvc, hmirrors, rfl⟩

theorem runData_mirrors_two_snapshots :
    let fields := @runFields Int Nat nanosecondDates
    let first : List (Document Nat) :=
      [⟨"a", fields 1000 5 "slow"⟩, ⟨"b", fields 1000 3 ""⟩, ⟨"c", fields 4000 2 "rain"⟩]
    let second : List (Document Nat) :=
      [⟨"b", fields 1000 3 ""⟩, ⟨"d", fields 7000 9 "race"⟩]
    let events : List (ListenerEvent Nat) := [.snapshot first, .error, .snapshot second]
    ∃ vc, run (step nanosecondDates (mergeSortBy _)) new events = some vc ∧
      Mirrors nanosecondDates second vc ∧
      step nanosecondDates (mergeSortBy _) vc .error = some vc := by
  have htyped : ∀ id date miles notes,
      WellTyped (⟨id, runFields nanosecondDates date miles notes⟩ : Document Nat) :=
    fun id date miles notes => ⟨_, miles, notes, rfl, rfl, rfl⟩
  refine runData_mirrors_last_snapshot _ _ _ ?_
  simp [WellFormed, htyped]

end RunTableViewController

end AdvMad.Miles
