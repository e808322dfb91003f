import AdvMad.Lab2New.States

/-!
# lab2New: the city editor

`DetailViewController` edits the cities of the selected state.  Its table
shows `cityList`, a working copy that every handler updates by other means
than the stored list.
-/

namespace AdvMad.Lab2New

open AdvMad.Foundation
open AdvMad.Shared

abbrev DetailViewController := TableScreen StatesDataModel

namespace DetailViewController

def viewWillAppear (vc : DetailViewController) : Option DetailViewController :=
  Shared.viewWillAppear cityList vc

def unwindSegue (vc : DetailViewController) (identifier : Option String)
    (addedCity : String) : Option DetailViewController :=
  Shared.unwindSegue cityList vc identifier addedCity

def commit (vc : DetailViewController) (editingStyle : EditingStyle) (row : Nat) :
    Option DetailViewController :=
  Shared.commit cityList vc editingStyle row

def moveRow (vc : DetailViewController) (fromRow toRow : Nat) :
    Option DetailViewController :=
  Shared.moveRow cityList vc fromRow toRow

def step (vc : DetailViewController) : TableEvent → Option DetailViewController
  | .viewWillAppear => vc.viewWillAppear
  | .unwindSegue identifier addedCity => vc.unwindSegue identifier addedCity
  | .commit editingStyle row => vc.commit editingStyle row
  | .moveRow fromRow toRow => vc.moveRow fromRow toRow

def opened (allData : List StatesDataModel) (selectedState : Nat) :
    DetailViewController := Shared.opened cityList allData selectedState

theorem step_eq : step = tableStep cityList := by
  funext vc event
  cases event <;> rfl

def Mirrors (vc : DetailViewController) : Prop :=
  getCities vc.allData vc.selected = some vc.list

instance (vc : DetailViewController) : Decidable vc.Mirrors := by
  unfold Mirrors
  infer_instance

/--
From the opened screen, along every run with rows inside the table: the
working copy equals the stored cities after every event, and every delete
removes the stored city shown at its row, exactly if every move jumps over
rows that all show the same city.
-/
theorem cityList_mirrors_cities_iff (allData : List StatesDataModel)
    (selectedState : Nat) (events : List TableEvent)
    (hselected : selectedState < allData.length)
    (hrows : EveryStep step RowsInTable (opened allData selectedState) events) :
    viewWillAppear ⟨allData, selectedState, []⟩ =
        some (opened allData selectedState) ∧
      ((Always step Mirrors (opened allData selectedState) events ∧
          EveryStep step (DeletesShown cityList)
            (opened allData selectedState) events) ↔
        EveryStep step MovesJumpEqual (opened allData selectedState) events) := by
  refine ⟨viewWillAppear_opened hselected [], ?_⟩
  rw [step_eq] at hrows ⊢
  have hopened : Shared.Mirrors cityList (opened allData selectedState) :=
    opened_mirrors hselected
  have hiff := always_mirrors_iff hopened hrows
  constructor
  · rintro ⟨halways, -⟩
    exact hiff.mp halways
  · intro hmoves
    have halways := hiff.mpr hmoves
    exact ⟨halways, halways.everyStep fun vc event h => deletesShown_of_mirrors h event⟩

def texas : List StatesDataModel := [⟨"Texas", ["Dallas", "Houston", "Austin"]⟩]

theorem cityList_mirrors_cities_texas :
    let events : List TableEvent :=
      [.unwindSegue (some "save") "El Paso", .moveRow 2 3, .commit .delete 0]
    viewWillAppear ⟨texas, 0, []⟩ = some (opened texas 0) ∧
      ((Always step Mirrors (opened texas 0) events ∧
          EveryStep step (DeletesShown cityList) (opened texas 0) events) ↔
        EveryStep step MovesJumpEqual (opened texas 0) events) :=
  cityList_mirrors_cities_iff texas 0 _ (by decide)
    (by decide)

/-- Moving the first of three cities to the end stores another order than it shows, and
the delete of the first row that follows removes another city than the one shown. -/
theorem cityList_mirror_lost :
    let start := opened texas 0
    let moved := start.moveRow 0 2
    EveryStep step RowsInTable start [.moveRow 0 2, .commit .delete 0] ∧
      moved.map (·.list) = some ["Austin", "Houston", "Dallas"] ∧
      moved.bind (fun vc => getCities vc.allData vc.selected) =
        some ["Houston", "Austin", "Dallas"] ∧
      ¬ Always step Mirrors start [.moveRow 0 2] ∧
      ¬ EveryStep step (DeletesShown cityList) start
          [.moveRow 0 2, .commit .delete 0] := by
  decide

structure EditsSelectedState (start vc : DetailViewController) : Prop where
  selectedState : vc.selected = start.selected
  count : vc.allData.length = start.allData.length
  states : vc.allData.map StatesDataModel.state = start.allData.map StatesDataModel.state
  others : ∀ idx, idx ≠ start.selected → vc.allData[idx]? = start.allData[idx]?

theorem edits_in_range (start : DetailViewController) (events : List TableEvent)
    (hstart : start.Mirrors) (hrows : EveryStep step RowsInTable start events) :
    Always step (EditsSelectedState start) start events := by
  rw [step_eq] at hrows ⊢
  have hmirrors : Shared.Mirrors cityList start := hstart
  apply (always_edits hmirrors.sameLength hrows).mono
  rintro vc ⟨-, hselected, hedits⟩
  exact ⟨hselected, hedits.length_eq, hedits.titles, hedits.others⟩

theorem edits_in_range_texas :
    let events : List TableEvent :=
      [.moveRow 0 2, .commit .delete 2, .unwindSegue (some "save") "Waco",
        .viewWillAppear, .moveRow 2 0, .commit .delete 0]
    Always step (EditsSelectedState (opened texas 0)) (opened texas 0) events :=
  edits_in_range _ _ (by decide) (by decide)

def ShowsAllCities (vc : DetailViewController) : Prop :=
  ∃ cities, getCities vc.allData vc.selected = some cities ∧ cities.Perm vc.list

/--
From a screen that shows all stored cities, along every run with rows inside
the table: no city is lost, doubled or replaced exactly as long as every delete
and every move starts at a row that shows the city stored there.
-/
theorem all_cities_shown_iff (start : DetailViewController) (events : List TableEvent)
    (hstart : start.ShowsAllCities) (hrows : EveryStep step RowsInTable start events) :
    Always step ShowsAllCities start events ↔
      EveryStep step (StartsAtShown cityList) start events := by
  rw [step_eq] at hrows ⊢
  exact always_sameNames_iff hstart hrows

theorem all_cities_shown_texas :
    let events : List TableEvent := [.moveRow 0 2, .moveRow 0 1, .commit .delete 1]
    Always step ShowsAllCities (opened texas 0) events ↔
      EveryStep step (StartsAtShown cityList) (opened texas 0) events :=
  all_cities_shown_iff _ _ ⟨["Dallas", "Houston", "Austin"], by decide, List.Perm.refl _⟩
    (by decide)

end DetailViewController

end AdvMad.Lab2New
