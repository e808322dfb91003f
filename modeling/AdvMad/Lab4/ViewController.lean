import AdvMad.Shared.StateSearch

/-!
# lab4: alerts of a state

`AlertDataController` and `ViewController` of lab4, over the handlers shared
with the campsites app.
-/

namespace AdvMad.Lab4

open AdvMad.Foundation
open AdvMad.Shared

structure Alert where
  category : String
  description : String
  title : String
  deriving DecidableEq, Repr

def urlPath (stateCode : String) : String :=
  "https://developer.nps.gov/api/v1/alerts?stateCode=" ++ stateCode ++
    "&api_key=Cd66S5mQ2i1uVbOTidvzTjBwPd8a2DexguH3MfT9"

def lab4 : SearchApp where
  stateOptions := ["CO", "CA", "FL", "NM", "UT"]
  urlPath := urlPath
  titleSuffix := " Alerts"

abbrev ViewController (Data : Type) := SearchScreen Alert Data

namespace ViewController

variable {Data : Type}

def viewDidLoad : Option (ViewController Data) := Shared.viewDidLoad lab4

def searchAlerts (platform : SearchPlatform Alert Data) (vc : ViewController Data) :
    ViewController Data :=
  Shared.search lab4 platform vc

def searchDone (vc : ViewController Data) (alerts : List Alert) : ViewController Data :=
  Shared.searchDone lab4 vc alerts

def step (platform : SearchPlatform Alert Data) (vc : ViewController Data)
    (event : SearchEvent Data) : Option (ViewController Data) :=
  searchStep lab4 platform vc event

/--
Along every run from the main screen: the results screen always shows the
decoded body of the search for the state in its title exactly if every body
received with status 200 decodes; and no body that fails to decode shows rows
of an earlier search exactly if every such body finds no alerts kept.
-/
theorem alerts_match_title_iff (platform : SearchPlatform Alert Data)
    (start : ViewController Data) (events : List (SearchEvent Data))
    (hstart : viewDidLoad = some start)
    (hrun : (run (step platform) start events).isSome) :
    (Always (step platform) (ResultsMatchTitle lab4 platform) start events ↔
        EveryStep (step platform) (BodyDecodes platform) start events) ∧
      (EveryStep (step platform) (ShowsNothingEarlier lab4 platform) start events ↔
        EveryStep (step platform) (DecodesOrNothingKept platform) start events) :=
  results_match_title_iff hstart hrun

def parsedBodies : SearchPlatform Alert (Option (List Alert)) where
  isURL _ := true
  decode body := body

def colorado : ViewController (Option (List Alert)) :=
  ⟨"CO", [], [], none, false, none, none⟩

def fire : Alert := ⟨"Danger", "Fire ban in all campgrounds", "Fire ban"⟩

theorem alerts_match_title_colorado :
    let events : List (SearchEvent (Option (List Alert))) :=
      [.search, .complete (some (some [fire])) (some 200), .back, .didSelectRow 1,
        .search, .complete (some (some [])) (some 200)]
    (Always (step parsedBodies) (ResultsMatchTitle lab4 parsedBodies) colorado events ↔
        EveryStep (step parsedBodies) (BodyDecodes parsedBodies) colorado events) ∧
      (EveryStep (step parsedBodies) (ShowsNothingEarlier lab4 parsedBodies)
          colorado events ↔
        EveryStep (step parsedBodies) (DecodesOrNothingKept parsedBodies)
          colorado events) :=
  alerts_match_title_iff _ _ _ (by decide) (by decide)

theorem alerts_of_other_state :
    let events : List (SearchEvent (Option (List Alert))) :=
      [.search, .complete (some (some [fire])) (some 200), .back, .didSelectRow 1,
        .search, .complete (some none) (some 200)]
    (run (step parsedBodies) colorado events).bind (·.results) =
        some ("CA Alerts", [fire]) ∧
      ¬ Always (step parsedBodies) (ResultsMatchTitle lab4 parsedBodies)
          colorado events ∧
      ¬ EveryStep (step parsedBodies) (ShowsNothingEarlier lab4 parsedBodies)
          colorado events := by
  decide

/--
The app comes to a stop exactly with the first search that fails: one whose
path is no URL, or one answered with another status than 200.  Nothing takes
the alert away then, and nothing else ever stops the app.
-/
theorem stuck_iff_search_failed (platform : SearchPlatform Alert Data)
    (start vc : ViewController Data) (events : List (SearchEvent Data))
    (hstart : viewDidLoad = some start) (hrun : run (step platform) start events = some vc) :
    (∀ event, step platform vc event = none) ↔
      ∃ before event t, events = before ++ [event] ∧ run (step platform) start before = some t ∧
        FailsSearch lab4 platform t event :=
  run_stuck_iff hstart hrun

theorem stuck_iff_search_failed_colorado :
    let events : List (SearchEvent (Option (List Alert))) :=
      [.search, .complete (some none) (some 200), .back, .didSelectRow 1, .search,
        .complete none (some 503)]
    let vc : ViewController (Option (List Alert)) :=
      ⟨"CA", [], [], none, true, none, some ("CO", none)⟩
    (∀ event, step parsedBodies vc event = none) ↔
      ∃ before event t, events = before ++ [event] ∧
        run (step parsedBodies) colorado before = some t ∧
        FailsSearch lab4 parsedBodies t event :=
  stuck_iff_search_failed parsedBodies colorado _ _ (by decide) (by decide)

end ViewController

end AdvMad.Lab4
