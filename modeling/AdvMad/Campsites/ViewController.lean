import AdvMad.Lab4.ViewController

/-!
# campsites: campsites of a state

`CampsiteDataController` and `ViewController` of the campsites app, which
repeat those of lab4.
-/

namespace AdvMad.Campsites

open AdvMad.Foundation
open AdvMad.Shared

structure Campsite where
  name : String
  description : String
  directionsoverview : String
  deriving DecidableEq, Repr

def urlPath (stateCode : String) : String :=
  "https://developer.nps.gov/api/v1/campgrounds?stateCode=" ++ stateCode ++
    "&api_key=KuzYWrSKHbuz6CBO8oc0pX35CeljxNSfgxane4IH"

def campsites : SearchApp where
  stateOptions := ["CO", "CA", "FL", "NM", "UT"]
  urlPath := urlPath
  titleSuffix := " Campsites"

abbrev ViewController (Data : Type) := SearchScreen Campsite Data

namespace ViewController

variable {Data : Type}

def searchCampsites (platform : SearchPlatform Campsite Data)
    (vc : ViewController Data) : ViewController Data :=
  Shared.search campsites platform vc

def searchDone (vc : ViewController Data) (found : List Campsite) :
    ViewController Data :=
  Shared.searchDone campsites vc found

def step (platform : SearchPlatform Campsite Data) (vc : ViewController Data)
    (event : SearchEvent Data) : Option (ViewController Data) :=
  searchStep campsites platform vc event

theorem campsites_match_title_iff (platform : SearchPlatform Campsite Data)
    (start : ViewController Data) (events : List (SearchEvent Data))
    (hstart : viewDidLoad campsites = some start)
    (hrun : (run (step platform) start events).isSome) :
    (Always (step platform) (ResultsMatchTitle campsites platform) start events ↔
        EveryStep (step platform) (BodyDecodes platform) start events) ∧
      (EveryStep (step platform) (ShowsNothingEarlier campsites platform)
          start events ↔
        EveryStep (step platform) (DecodesOrNothingKept platform) start events) :=
  results_match_title_iff hstart hrun

/-- In both apps a search that was sent ends once, with the alert dismissed, exactly if the
response is there with status 200 and has a body, decodable or not. -/
theorem search_ends_once_iff {Failure : Type}
    (alertsPlatform : SearchPlatform Lab4.Alert Data) (alertsVC : Lab4.ViewController Data)
    (campsitesPlatform : SearchPlatform Campsite Data) (campsitesVC : ViewController Data)
    (halerts : alertsPlatform.isURL (Lab4.urlPath alertsVC.selectedState) = true)
    (hcampsites : campsitesPlatform.isURL (urlPath campsitesVC.selectedState) = true)
    (data : Option Data) (response : Option Int) (error : Option Failure) :
    (EndsOnce Lab4.lab4 alertsPlatform (alertsVC.searchAlerts alertsPlatform) data response
        error ↔ response = some 200 ∧ data.isSome) ∧
      (EndsOnce campsites campsitesPlatform (campsitesVC.searchCampsites campsitesPlatform)
        data response error ↔ response = some 200 ∧ data.isSome) := by
  constructor
  · exact search_endsOnce_iff Lab4.lab4 alertsPlatform alertsVC halerts data response error
  · exact search_endsOnce_iff campsites campsitesPlatform campsitesVC hcampsites data response
      error

def alertsBody : SearchPlatform Lab4.Alert (List Lab4.Alert) where
  isURL _ := true
  decode := some

def campsitesBody : SearchPlatform Campsite (List Lab4.Alert) where
  isURL _ := true
  decode _ := none

def coloradoAlerts : Lab4.ViewController (List Lab4.Alert) :=
  ⟨"CO", [], [], none, false, none, none⟩

def coloradoCampsites : ViewController (List Lab4.Alert) :=
  ⟨"CO", [], [], none, false, none, none⟩

theorem search_ends_once_colorado :
    (EndsOnce Lab4.lab4 alertsBody (coloradoAlerts.searchAlerts alertsBody) (some [])
        (some 200) (none : Option String) ↔
      (some 200 : Option Int) = some 200 ∧ (some ([] : List Lab4.Alert)).isSome) ∧
    (EndsOnce campsites campsitesBody (coloradoCampsites.searchCampsites campsitesBody)
        (some []) (some 200) (none : Option String) ↔
      (some 200 : Option Int) = some 200 ∧ (some ([] : List Lab4.Alert)).isSome) :=
  search_ends_once_iff alertsBody coloradoAlerts campsitesBody coloradoCampsites rfl rfl
    (some []) (some 200) none

/-- A transport failure traps on the missing response.  Status 404 calls nothing back and
leaves the alert up.  A success without a body traps. -/
theorem search_does_not_end :
    let vc := coloradoAlerts.searchAlerts alertsBody
    let ends (data : Option (List Lab4.Alert)) (response : Option Int) :=
      EndsOnce Lab4.lab4 alertsBody vc data response (some "error")
    complete Lab4.lab4 alertsBody vc none none = none ∧
      completionHandler alertsBody [] (some []) (some 404) (some "error") = some [] ∧
      (complete Lab4.lab4 alertsBody vc (some []) (some 404)).map (·.searching) =
        some true ∧
      complete Lab4.lab4 alertsBody vc none (some 200) = none ∧
      ¬ ends none none ∧ ¬ ends (some []) (some 404) ∧ ¬ ends none (some 200) := by
  refine ⟨rfl, rfl, rfl, rfl, ?_, ?_, ?_⟩ <;> rintro ⟨⟨entries, hcalls⟩, -⟩ <;> cases hcalls

end ViewController

end AdvMad.Campsites
