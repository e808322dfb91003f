import AdvMad.Countries.Continents

/-!
# countries: the country editor

The handlers of `DetailViewController` repeat those of the city editor.
-/

namespace AdvMad.Countries

open AdvMad.Foundation
open AdvMad.Shared

abbrev DetailViewController := TableScreen ContinentsDataModel

namespace DetailViewController

def viewWillAppear (vc : DetailViewController) : Option DetailViewController :=
  Shared.viewWillAppear countryList vc

def unwindSegue (vc : DetailViewController) (identifier : Option String)
    (addedCountry : String) : Option DetailViewController :=
  Shared.unwindSegue countryList vc identifier addedCountry

def commit (vc : DetailViewController) (editingStyle : EditingStyle) (row : Nat) :
    Option DetailViewController :=
  Shared.commit countryList vc editingStyle row

def moveRow (vc : DetailViewController) (fromRow toRow : Nat) :
    Option DetailViewController :=
  Shared.moveRow countryList vc fromRow toRow

def step (vc : DetailViewController) : TableEvent → Option DetailViewController
  | .viewWillAppear => vc.viewWillAppear
  | .unwindSegue identifier addedCountry => vc.unwindSegue identifier addedCountry
  | .commit editingStyle row => vc.commit editingStyle row
  | .moveRow fromRow toRow => vc.moveRow fromRow toRow

def Mirrors (vc : DetailViewController) : Prop :=
  getCountries vc.allData vc.selected = some vc.list

theorem step_eq : step = tableStep countryList := by
  funext vc event
  cases event <;> rfl

theorem countryList_mirrors_countries_iff (allData : List ContinentsDataModel)
    (selectedContinent : Nat) (events : List TableEvent)
    (hselected : selectedContinent < allData.length)
    (hrows : EveryStep step RowsInTable
      (opened countryList allData selectedContinent) events) :
    Always step Mirrors (opened countryList allData selectedContinent) events ↔
      EveryStep step MovesJumpEqual
        (opened countryList allData selectedContinent) events := by
  rw [step_eq] at hrows ⊢
  exact always_mirrors_iff (opened_mirrors hselected) hrows

end DetailViewController

end AdvMad.Countries
