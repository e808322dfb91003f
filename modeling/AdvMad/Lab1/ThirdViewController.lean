import AdvMad.Shared.DependentPickers

/-!
# lab1: locations and activities

`ActivityPlaylist`, `ActivityController` and `ThirdViewController` of lab1,
over the handlers shared with the music app.
-/

namespace AdvMad.Lab1

open AdvMad.Foundation
open AdvMad.Shared

structure ActivityPlaylist where
  category : List String
  name : String
  deriving DecidableEq, Repr

def activityPlaylist : PickerSource ActivityPlaylist where
  name := ActivityPlaylist.name
  items := ActivityPlaylist.category
  label activity location := "You like " ++ activity ++ " " ++ location

def getAllLocations (activityPlaylistData : Option (List ActivityPlaylist)) :
    Except PickerDataError (List String) :=
  getAllNames activityPlaylist activityPlaylistData

def getActivities (activityPlaylistData : Option (List ActivityPlaylist)) (idx : Nat) :
    Option (Except PickerDataError (List String)) :=
  getItems activityPlaylist activityPlaylistData idx

abbrev ThirdViewController := DependentPickers ActivityPlaylist

namespace ThirdViewController

def viewDidLoad (loadData : Except PickerDataError (List ActivityPlaylist)) :
    Option ThirdViewController :=
  DependentPickers.viewDidLoad activityPlaylist loadData

def didSelectRow (vc : ThirdViewController) (row component : Nat) :
    Option ThirdViewController :=
  DependentPickers.didSelectRow activityPlaylist vc row component

def step (vc : ThirdViewController) (pick : Pick) : Option ThirdViewController :=
  didSelectRow (vc.selectRow pick.row pick.component) pick.row pick.component

def LabelShowsSelection (data : List ActivityPlaylist) (vc : ThirdViewController) : Prop :=
  ∃ playlist activity, data[vc.selectedRow namesComp]? = some playlist ∧
    playlist.category[vc.selectedRow itemsComp]? = some activity ∧
    vc.label = some ("You like " ++ activity ++ " " ++ playlist.name)

end ThirdViewController

end AdvMad.Lab1
