import AdvMad.Lab1.ThirdViewController

/-!
# music: artists and albums

`ThirdViewController` of the music app repeats that of lab1 with albums for
activities and artists for locations.  Its `viewDidLoad` fills the two lists
in the other order, which ends the same way: neither call reads what the other
sets.
-/

namespace AdvMad.Music

open AdvMad.Foundation
open AdvMad.Shared
open Lab1 (ActivityPlaylist)

structure ArtistAlbums where
  name : String
  albums : List String
  deriving DecidableEq, Repr

def artistAlbums : PickerSource ArtistAlbums where
  name := ArtistAlbums.name
  items := ArtistAlbums.albums
  label album artist := "You like " ++ album ++ " by " ++ artist

def getAllArtists (artistAlbumsData : Option (List ArtistAlbums)) :
    Except PickerDataError (List String) :=
  getAllNames artistAlbums artistAlbumsData

def getAlbums (artistAlbumsData : Option (List ArtistAlbums)) (idx : Nat) :
    Option (Except PickerDataError (List String)) :=
  getItems artistAlbums artistAlbumsData idx

abbrev ThirdViewController := DependentPickers ArtistAlbums

namespace ThirdViewController

def viewDidLoad (loadData : Except PickerDataError (List ArtistAlbums)) :
    Option ThirdViewController :=
  DependentPickers.viewDidLoad artistAlbums loadData

def didSelectRow (vc : ThirdViewController) (row component : Nat) :
    Option ThirdViewController :=
  DependentPickers.didSelectRow artistAlbums vc row component

def step (vc : ThirdViewController) (pick : Pick) : Option ThirdViewController :=
  didSelectRow (vc.selectRow pick.row pick.component) pick.row pick.component

def LabelShowsSelection (data : List ArtistAlbums) (vc : ThirdViewController) : Prop :=
  ∃ artist album, data[vc.selectedRow namesComp]? = some artist ∧
    artist.albums[vc.selectedRow itemsComp]? = some album ∧
    vc.label = some ("You like " ++ album ++ " by " ++ artist.name)

end ThirdViewController

/-- In both apps, for every loaded list without empty wheels: the screen loads, every run
of picks with rows the picker was told of goes through, and after it the wheels have the
rows last picked or set and the label shows them. -/
theorem labels_show_selection :
    (∀ data : List ActivityPlaylist, data ≠ [] →
      (∀ playlist ∈ data, playlist.category ≠ []) →
      ∃ start, Lab1.ThirdViewController.viewDidLoad (.ok data) = some start ∧
        ∀ picks,
          EveryStep Lab1.ThirdViewController.step DependentPickers.RowSupplied start picks →
          ∃ vc, run Lab1.ThirdViewController.step start picks = some vc ∧
            DependentPickers.rows vc = DependentPickers.lastPicked picks ∧
            (picks ≠ [] → Lab1.ThirdViewController.LabelShowsSelection data vc)) ∧
    ∀ data : List ArtistAlbums, data ≠ [] → (∀ artist ∈ data, artist.albums ≠ []) →
      ∃ start, ThirdViewController.viewDidLoad (.ok data) = some start ∧
        ∀ picks, EveryStep ThirdViewController.step DependentPickers.RowSupplied start picks →
          ∃ vc, run ThirdViewController.step start picks = some vc ∧
            DependentPickers.rows vc = DependentPickers.lastPicked picks ∧
            (picks ≠ [] → ThirdViewController.LabelShowsSelection data vc) := by
  constructor
  · intro data hdata hcategories
    exact DependentPickers.picks_stay_consistent hdata hcategories
  · intro data hdata halbums
    exact DependentPickers.picks_stay_consistent hdata halbums

def playlists : List ActivityPlaylist :=
  [⟨["Climbing", "Hiking", "Skiing"], "Boulder"⟩, ⟨["Surfing"], "Malibu"⟩]

def shelf : List ArtistAlbums :=
  [⟨"Rihanna", ["Anti", "Loud"]⟩, ⟨"Drake", ["Views"]⟩]

def playlistsShown : Lab1.ThirdViewController :=
  (Lab1.ThirdViewController.viewDidLoad (.ok playlists)).getD DependentPickers.new

def shelfShown : ThirdViewController :=
  (ThirdViewController.viewDidLoad (.ok shelf)).getD DependentPickers.new

theorem labels_show_selection_shorter_list :
    (∃ vc, run Lab1.ThirdViewController.step playlistsShown
        [⟨2, 1⟩, ⟨1, 0⟩, ⟨0, 1⟩, ⟨0, 0⟩] = some vc ∧ DependentPickers.rows vc = (0, 0) ∧
      Lab1.ThirdViewController.LabelShowsSelection playlists vc) ∧
    ∃ vc, run ThirdViewController.step shelfShown [⟨1, 0⟩, ⟨0, 0⟩, ⟨1, 1⟩] = some vc ∧
      DependentPickers.rows vc = (0, 1) ∧ ThirdViewController.LabelShowsSelection shelf vc := by
  constructor
  · obtain ⟨start, hstart, hpicks⟩ :=
      labels_show_selection.1 playlists (by decide) (by decide)
    obtain rfl : playlistsShown = start := Option.some.inj hstart
    obtain ⟨vc, hrun, hrows, hlabel⟩ := hpicks [⟨2, 1⟩, ⟨1, 0⟩, ⟨0, 1⟩, ⟨0, 0⟩] (by decide)
    exact ⟨vc, hrun, hrows, hlabel (by decide)⟩
  · obtain ⟨start, hstart, hpicks⟩ :=
      labels_show_selection.2 shelf (by decide) (by decide)
    obtain rfl : shelfShown = start := Option.some.inj hstart
    obtain ⟨vc, hrun, hrows, hlabel⟩ := hpicks [⟨1, 0⟩, ⟨0, 0⟩, ⟨1, 1⟩] (by decide)
    exact ⟨vc, hrun, hrows, hlabel (by decide)⟩

end AdvMad.Music
